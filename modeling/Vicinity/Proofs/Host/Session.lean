import Vicinity.Proofs.Host.Preloading
import Vicinity.Proofs.Index.Query

/-!
Runs of a host. A session is what a host has come to by any sequence of operations, with everything
that may happen to the files in between; it keeps account of the numbers that were given, with the
indexes they were given to, and of those that were freed. The numbers are 1, 2, 3 and so on in the
order of the loads that succeeded, and the table holds what was given and not freed. So a number
stands for one index as it was loaded until it is freed, and for none before and after.

A warm-up that fails is an operation that gives numbers all the same: one for each index that it
loaded before it failed.
-/

namespace Vicinity.Host

open Json (Value)

/-- What a host can ask for next, or what happens to its world without it. -/
inductive Operation where
  | build (ids : List Int) (vectors : List RawVector) (map : Value) (output : String)
  | load (path : String) (map : Value)
  | query (handle : Nat) (raw : RawVector) (k : Int)
  | free (handle : Nat)
  | warmup (entries : List WarmupEntry)
  | change (world : World)

/-- What comes back from an operation. -/
inductive Answer where
  | built (outcome : Except Error Manifest)
  | loaded (outcome : Except Error Nat)
  | found (outcome : Except Error (List Neighbor))
  | freed (outcome : Except Error Unit)
  | warmed (outcome : Except Error (List Nat))
  | changed

namespace Operation

variable {σ : Type}

def perform (b : Backend σ) : Operation → State σ → Answer × State σ
  | build ids vectors map output, s =>
    let (outcome, world) := Host.build b ids vectors map output s.world
    (.built outcome, { s with world })
  | load path map, s => (Host.load b path map s).map .loaded id
  | query handle raw k, s => (.found (Host.query s.handles handle raw k), s)
  | free handle, s =>
    match Host.free s.handles handle with
    | .error e => (.freed (.error e), s)
    | .ok handles => (.freed (.ok ()), { s with handles })
  | warmup entries, s => (Host.warmup b entries s).map .warmed id
  | change world, s => (.changed, { s with world })

/-- The indexes that an operation loads, with their numbers. -/
def opens (b : Backend σ) : Operation → State σ → List (Nat × LoadedIndex σ)
  | load path map, s =>
    match LoadRequest.ofJson map with
    | .error _ => []
    | .ok request => opened b path request s
  | warmup entries, s => openedByWarmup b entries s
  | _, _ => []

/-- The numbers that an operation frees. -/
def frees : Operation → State σ → List Nat
  | free handle, s =>
    match Host.free s.handles handle with
    | .error _ => []
    | .ok _ => if handle = 0 then [] else [handle]
  | _, _ => []

end Operation

/-- What a host has come to, with all numbers that it was given, the indexes they were given to, and
the numbers that it freed. -/
structure Session (σ : Type) where
  state : State σ
  opened : List (Nat × LoadedIndex σ)
  freed : List Nat

namespace Session

variable {σ : Type}

/-- A host that has asked for nothing yet, with a table that chooses in a given way. -/
def start (choice : PathChoice σ) (w : World) : Session σ := ⟨⟨.emptyBy choice, w⟩, [], []⟩

def next (b : Backend σ) (x : Session σ) (o : Operation) : Session σ :=
  ⟨(o.perform b x.state).2, x.opened ++ o.opens b x.state, x.freed ++ o.frees x.state⟩

/-- The session after a sequence of operations. -/
def run (b : Backend σ) (choice : PathChoice σ) (w : World) (operations : List Operation) :
    Session σ :=
  operations.foldl (next b) (start choice w)

/-- Whether a number was given to an index and not freed. -/
def Live (x : Session σ) (handle : Nat) (loaded : LoadedIndex σ) : Prop :=
  (handle, loaded) ∈ x.opened ∧ handle ∉ x.freed

/-- Whether the table is what the account says: the loads that succeeded were numbered from 1 on,
each number was freed at most once, and those given and not freed stand in the table. -/
structure Accounted (x : Session σ) : Prop where
  numbered : x.opened.map Prod.fst = List.range' 1 x.opened.length
  next : x.state.handles.next = x.opened.length + 1
  live : x.state.handles.live = x.opened.filter fun e => e.1 ∉ x.freed
  freed_once : x.freed.Nodup
  freed_opened : x.freed ⊆ x.opened.map Prod.fst

variable {b : Backend σ} {x : Session σ} {s' : State σ} {more : List (Nat × LoadedIndex σ)}
  {handle : Nat} {loaded : LoadedIndex σ}

theorem start_accounted (choice : PathChoice σ) (w : World) : (start choice w).Accounted where
  numbered := rfl
  next := rfl
  live := rfl
  freed_once := List.nodup_nil
  freed_opened := List.nil_subset _

theorem Accounted.live_iff (hx : x.Accounted) :
    (handle, loaded) ∈ x.state.handles.live ↔ x.Live handle loaded := by
  rw [hx.live, List.mem_filter, decide_eq_true_iff]
  exact Iff.rfl

/-- Opening indexes keeps the account. -/
theorem Accounted.of_grows (hx : x.Accounted) (hgrows : Grows x.state more s') :
    (Session.mk s' (x.opened ++ more) x.freed).Accounted where
  numbered := by
    rw [List.map_append, hx.numbered, hgrows.numbered, hx.next, List.length_append, Nat.add_comm,
      List.range'_append_1]
  next := by
    rw [hgrows.next, hx.next, List.length_append]
    omega
  live := by
    -- The new numbers are above all that were given before, so none of them was freed.
    have hfresh : ∀ e ∈ more, e.1 ∉ x.freed := by
      intro e he hfreed
      have hnew : e.1 ∈ more.map Prod.fst := List.mem_map_of_mem he
      have hold := hx.freed_opened hfreed
      rw [hgrows.numbered, hx.next, List.mem_range'_1] at hnew
      rw [hx.numbered, List.mem_range'_1] at hold
      omega
    have hall : more.filter (fun e => e.1 ∉ x.freed) = more :=
      List.filter_eq_self.mpr fun e he => decide_eq_true (hfresh e he)
    rw [hgrows.live, hx.live, List.filter_append, hall]
  freed_once := hx.freed_once
  freed_opened := by
    rw [List.map_append]
    exact fun h hfreed => List.mem_append_left _ (hx.freed_opened hfreed)

theorem Accounted.of_handles_eq (hx : x.Accounted) (hhandles : s'.handles = x.state.handles) :
    (Session.mk s' x.opened x.freed).Accounted where
  numbered := hx.numbered
  next := by rw [hhandles, hx.next]
  live := by rw [hhandles, hx.live]
  freed_once := hx.freed_once
  freed_opened := hx.freed_opened

/-- Freeing a number that is live keeps the account. -/
theorem Accounted.of_erase (hx : x.Accounted) (hlive : x.Live handle loaded) (w : World) :
    (Session.mk ⟨x.state.handles.erase handle, w⟩ x.opened (x.freed ++ [handle])).Accounted where
  numbered := hx.numbered
  next := hx.next
  live := by
    rw [HandleTable.live_erase, hx.live, List.filter_filter]
    refine List.filter_congr fun e _ => ?_
    rw [← Bool.decide_and, decide_eq_decide, List.mem_append, List.mem_singleton]
    tauto
  freed_once := by
    refine hx.freed_once.append (List.nodup_singleton _) fun h hfreed hsame => ?_
    rw [List.mem_singleton.mp hsame] at hfreed
    exact hlive.2 hfreed
  freed_opened := by
    intro h hfreed
    rcases List.mem_append.mp hfreed with hold | hnew
    · exact hx.freed_opened hold
    · rw [List.mem_singleton.mp hnew]
      exact List.mem_map_of_mem hlive.1

section Step

theorem Accounted.get_of_live (hx : x.Accounted) (hlive : x.Live handle loaded) :
    x.state.handles.get handle = .ok loaded :=
  HandleTable.get_of_mem_live (hx.live_iff.mpr hlive)

theorem Accounted.not_mem_live (hx : x.Accounted) (hdead : ∀ loaded, ¬ x.Live handle loaded) :
    ∀ loaded, (handle, loaded) ∉ x.state.handles.live :=
  fun loaded hmem => hdead loaded (hx.live_iff.mp hmem)

theorem Live.pos (hx : x.Accounted) (hlive : x.Live handle loaded) : handle ≠ 0 := by
  have hmem : handle ∈ x.opened.map Prod.fst := List.mem_map_of_mem hlive.1
  rw [hx.numbered, List.mem_range'_1] at hmem
  omega

theorem load_of_perform {path : String} {map : Value} {s : State σ} {outcome : Except Error Nat}
    (h : (Operation.load path map).perform b s = (.loaded outcome, s')) :
    Host.load b path map s = (outcome, s') := by
  obtain ⟨houtcome, hstate⟩ := Prod.mk.inj h
  exact Prod.ext (Answer.loaded.inj houtcome) hstate

theorem warmup_of_perform {entries : List WarmupEntry} {s : State σ}
    {outcome : Except Error (List Nat)}
    (h : (Operation.warmup entries).perform b s = (.warmed outcome, s')) :
    Host.warmup b entries s = (outcome, s') := by
  obtain ⟨houtcome, hstate⟩ := Prod.mk.inj h
  exact Prod.ext (Answer.warmed.inj houtcome) hstate

/-- A load is refused for its map, or comes to what a registration comes to. -/
theorem load_spec {path : String} {map : Value} {s : State σ} {outcome : Except Error Nat}
    (h : Host.load b path map s = (outcome, s')) :
    (∃ e, outcome = .error e ∧ s' = s ∧ (Operation.load path map).opens b s = []) ∨
    ∃ request, LoadRequest.ofJson map = .ok request ∧
      Registered b path request s ((Operation.load path map).opens b s) outcome s' := by
  unfold Host.load at h
  rw [Operation.opens]
  cases hrequest : LoadRequest.ofJson map with
  | error e =>
      rw [hrequest] at h
      cases h
      exact .inl ⟨e, rfl, rfl, rfl⟩
  | ok request =>
      rw [hrequest] at h
      exact .inr ⟨request, rfl, register_spec h⟩

theorem load_grows {path : String} {map : Value} {s : State σ} {outcome : Except Error Nat}
    (h : Host.load b path map s = (outcome, s')) :
    Grows s ((Operation.load path map).opens b s) s' := by
  rcases load_spec h with ⟨e, -, rfl, hopens⟩ | ⟨request, -, hregistered⟩
  · rw [hopens]
    exact .of_handles_eq rfl rfl
  · exact hregistered.grows

theorem free_of_live (hx : x.Accounted) (hlive : x.Live handle loaded) :
    Host.free x.state.handles handle = .ok (x.state.handles.erase handle) := by
  rw [Host.free, if_neg (hlive.pos hx),
    HandleTable.remove_of_mem_live (hx.live_iff.mpr hlive)]

theorem free_of_dead (hx : x.Accounted) (hzero : handle ≠ 0)
    (hdead : ∀ loaded, ¬ x.Live handle loaded) :
    Host.free x.state.handles handle = .error (.invalidHandle handle) := by
  rw [Host.free, if_neg hzero, HandleTable.remove_of_not_live (hx.not_mem_live hdead)]

theorem next_accounted (hx : x.Accounted) (b : Backend σ) (o : Operation) :
    (x.next b o).Accounted := by
  unfold next
  cases o with
  | build ids vectors map output =>
      simp only [Operation.opens, Operation.frees, List.append_nil]
      exact hx.of_handles_eq rfl
  | load path map =>
      simp only [Operation.frees, List.append_nil]
      exact hx.of_grows (load_grows rfl)
  | query handle raw k =>
      simp only [Operation.opens, Operation.frees, List.append_nil]
      exact hx
  | free handle =>
      simp only [Operation.perform, Operation.opens, Operation.frees, List.append_nil]
      by_cases hzero : handle = 0
      · simp only [Host.free, if_pos hzero, List.append_nil]
        exact hx
      by_cases hlive : ∃ loaded, x.Live handle loaded
      · obtain ⟨loaded, hlive⟩ := hlive
        simp only [free_of_live hx hlive, if_neg hzero]
        exact hx.of_erase hlive _
      · simp only [free_of_dead hx hzero (not_exists.mp hlive), List.append_nil]
        exact hx
  | warmup entries =>
      simp only [Operation.frees, List.append_nil]
      exact hx.of_grows (warmup_grows rfl)
  | change world =>
      simp only [Operation.opens, Operation.frees, List.append_nil]
      exact hx.of_handles_eq rfl

theorem run_concat (b : Backend σ) (choice : PathChoice σ) (w : World)
    (operations : List Operation) (o : Operation) :
    run b choice w (operations ++ [o]) = (run b choice w operations).next b o :=
  List.foldl_concat _ _ _ _

/-- The account is right after every sequence of operations. -/
theorem run_accounted (b : Backend σ) (choice : PathChoice σ) (w : World)
    (operations : List Operation) : (run b choice w operations).Accounted := by
  induction operations using List.reverseRecOn with
  | nil => exact start_accounted choice w
  | append_singleton before o ih =>
      rw [run_concat]
      exact next_accounted ih b o

end Step

/-- The numbers that are live are those given less those freed. -/
theorem Accounted.size_add (hx : x.Accounted) :
    x.state.handles.size + x.freed.length = x.opened.length := by
  have hnodup : (x.opened.map Prod.fst).Nodup := by
    rw [hx.numbered]
    exact List.nodup_range'
  have hgone : ((x.opened.filter fun e => e.1 ∈ x.freed).map Prod.fst).Perm x.freed := by
    refine (List.perm_ext_iff_of_nodup
      (hnodup.sublist (List.filter_sublist.map Prod.fst)) hx.freed_once).mpr fun h => ?_
    simp only [List.mem_map, List.mem_filter, decide_eq_true_iff]
    constructor
    · rintro ⟨e, ⟨-, hfreed⟩, rfl⟩
      exact hfreed
    · intro hfreed
      obtain ⟨e, he, rfl⟩ := List.mem_map.mp (hx.freed_opened hfreed)
      exact ⟨e, ⟨he, hfreed⟩, rfl⟩
  have hsplit := List.length_eq_length_filter_add (l := x.opened) fun e => decide (e.1 ∈ x.freed)
  have hlength := hgone.length_eq
  rw [List.length_map] at hlength
  rw [HandleTable.size_eq_length_live, hx.live, hsplit, hlength, Nat.add_comm]
  simp only [decide_not]

/-- What operations do in a session. Numbers that are live answer for their index as it was loaded,
other numbers are refused, and a load gives the next number where it succeeds. -/
structure Answers (b : Backend σ) (x : Session σ) : Prop where
  load_ok : ∀ path map handle s',
    (Operation.load path map).perform b x.state = (.loaded (.ok handle), s') →
    handle = x.opened.length + 1 ∧ ∃ request loaded,
      LoadRequest.ofJson map = .ok request ∧
      Engine.load b path request.space request.params x.state.world = (.ok loaded, s'.world) ∧
      (Operation.load path map).opens b x.state = [(handle, loaded)]
  load_error : ∀ path map e s',
    (Operation.load path map).perform b x.state = (.loaded (.error e), s') →
    (Operation.load path map).opens b x.state = [] ∧ s'.handles = x.state.handles
  warmup_ok : ∀ entries handles s',
    (Operation.warmup entries).perform b x.state = (.warmed (.ok handles), s') →
    (∀ o ∈ (Operation.warmup entries).opens b x.state, o.1 ∈ handles) ∧
    ∀ handle ∈ handles, ∃ loaded, (x.next b (.warmup entries)).Live handle loaded
  warmup_error : ∀ entries e s',
    (Operation.warmup entries).perform b x.state = (.warmed (.error e), s') →
    ∃ done failing rest handles s₁, entries = done ++ failing :: rest ∧
      Host.warmup b done x.state = (.ok handles, s₁) ∧ warm b failing s₁ = (.error e, s') ∧
      (Operation.warmup entries).opens b x.state = (Operation.warmup done).opens b x.state ∧
      ((Operation.warmup entries).opens b x.state = [] ↔
        ∀ entry ∈ done, entry.place x.state.world.files ∈ x.state.handles.places)
  query_live : ∀ handle loaded raw k, x.Live handle loaded → 0 < k →
    (Operation.query handle raw k).perform b x.state = (.found (loaded.query raw k.toNat), x.state)
  query_dead : ∀ handle raw k, (∀ loaded, ¬ x.Live handle loaded) → 0 < k →
    (Operation.query handle raw k).perform b x.state =
      (.found (.error (.invalidHandle handle)), x.state)
  free_zero : (Operation.free 0).perform b x.state = (.freed (.ok ()), x.state)
  free_live : ∀ handle loaded, x.Live handle loaded →
    ((Operation.free handle).perform b x.state).1 = .freed (.ok ()) ∧
    (x.next b (.free handle)).opened = x.opened ∧
    (x.next b (.free handle)).freed = x.freed ++ [handle]
  free_dead : ∀ handle, handle ≠ 0 → (∀ loaded, ¬ x.Live handle loaded) →
    (Operation.free handle).perform b x.state = (.freed (.error (.invalidHandle handle)), x.state)
  build_idle : ∀ ids vectors map output,
    (x.next b (.build ids vectors map output)).state.handles = x.state.handles
  change_idle : ∀ w, (x.next b (.change w)).state.handles = x.state.handles

theorem query_of_pos {handles : HandleTable σ} {raw : RawVector} {k : Int} (hk : 0 < k) :
    Host.query handles handle raw k = (handles.get handle).bind fun loaded =>
      loaded.query raw k.toNat := by
  rw [Host.query, if_neg (Int.not_le.mpr hk)]
  rfl

theorem Accounted.answers (hx : x.Accounted) (b : Backend σ) : x.Answers b where
  load_ok path map handle s' h := by
    rcases load_spec (load_of_perform h) with ⟨e, hrefused, -⟩ | ⟨request, hrequest, hregistered⟩
    · cases hrefused
    · generalize (Operation.load path map).opens b x.state = more at hregistered ⊢
      cases hregistered with
      | loaded files space load => exact ⟨hx.next, request, _, hrequest, load, rfl⟩
  load_error path map e s' h := by
    rcases load_spec (load_of_perform h) with ⟨-, -, rfl, hopens⟩ | ⟨request, -, hregistered⟩
    · exact ⟨hopens, rfl⟩
    · generalize (Operation.load path map).opens b x.state = more at hregistered ⊢
      cases hregistered with
      | refused files handles => exact ⟨rfl, handles⟩
  warmup_ok entries handles s' h := by
    have hrun := warmup_of_perform h
    refine ⟨fun o ho => mem_handles_of_opened hrun ho, fun handle hhandle => ?_⟩
    have hstate : (x.next b (.warmup entries)).state = s' := congrArg Prod.snd h
    obtain ⟨entry, -, loaded, hholds, -⟩ := Json.exists_of_forall₂ (warmup_warm hrun).flip hhandle
    rw [← hstate] at hholds
    exact ⟨loaded, (next_accounted hx b (.warmup entries)).live_iff.mp hholds.mem_live⟩
  warmup_error entries e s' h := by
    obtain ⟨done, failing, rest, handles, s₁, hsplit, hdone, hfailing, -, hopens⟩ :=
      exists_failing (warmup_of_perform h)
    refine ⟨done, failing, rest, handles, s₁, hsplit, hdone, hfailing, hopens, ?_⟩
    rw [Operation.opens, hopens, ← (warmup_grows hdone).handles_eq_iff, handles_eq_iff hdone]
  query_live handle loaded raw k hlive hk := by
    rw [Operation.perform, query_of_pos hk, hx.get_of_live hlive]
    rfl
  query_dead handle raw k hdead hk := by
    rw [Operation.perform, query_of_pos hk, HandleTable.get_of_not_live (hx.not_mem_live hdead)]
    rfl
  free_zero := by
    rw [Operation.perform, Host.free, if_pos rfl]
  free_live handle loaded hlive := by
    have hfree := free_of_live hx hlive
    refine ⟨?_, ?_, ?_⟩
    · rw [Operation.perform, hfree]
    · simp only [Session.next, Operation.opens, List.append_nil]
    · simp only [Session.next, Operation.frees, hfree, if_neg (hlive.pos hx)]
  free_dead handle hzero hdead := by
    rw [Operation.perform, free_of_dead hx hzero hdead]
  build_idle _ _ _ _ := rfl
  change_idle _ := rfl

section Whole

/-- What was opened or freed stays so. -/
theorem run_kept (b : Backend σ) (choice : PathChoice σ) (w : World)
    (before after : List Operation) :
    (run b choice w before).opened <+: (run b choice w (before ++ after)).opened ∧
      (run b choice w before).freed <+: (run b choice w (before ++ after)).freed := by
  induction after using List.reverseRecOn with
  | nil =>
      rw [List.append_nil]
      exact ⟨List.prefix_rfl, List.prefix_rfl⟩
  | append_singleton after o ih =>
      rw [← List.append_assoc, run_concat]
      exact ⟨ih.1.trans (List.prefix_append _ _), ih.2.trans (List.prefix_append _ _)⟩

/-- After every sequence of operations, however the table chooses between indexes from one file, the
table is what the account says, so that its numbers are 1, 2, 3 and so on in the order of the loads
that succeeded; as many are live as were given and not freed; each operation does what it should,
whatever comes next; and whatever has come in between, a number that was live and was not freed is
live for the same index, and one that was freed is not live again. -/
theorem run_accounts (b : Backend σ) (choice : PathChoice σ) (w : World)
    (operations : List Operation) :
    let after := run b choice w
    (after operations).Accounted ∧
      (after operations).state.handles.size + (after operations).freed.length =
        (after operations).opened.length ∧
      (after operations).Answers b ∧
      (∀ more handle loaded, (after operations).Live handle loaded →
        handle ∉ (after (operations ++ more)).freed →
        (after (operations ++ more)).Live handle loaded) ∧
      ∀ more, ∀ handle ∈ (after operations).freed,
        ∀ loaded, ¬ (after (operations ++ more)).Live handle loaded := by
  intro after
  have haccounted := run_accounted b choice w operations
  refine ⟨haccounted, haccounted.size_add, haccounted.answers b, ?_, ?_⟩
  · intro more handle loaded hlive hkept
    exact ⟨(run_kept b choice w operations more).1.subset hlive.1, hkept⟩
  · intro more handle hfreed loaded hlive
    exact hlive.2 ((run_kept b choice w operations more).2.subset hfreed)

end Whole

section Tenths

/-- A build map that names a space and nothing else. -/
def spaceOnly : Value := .object [("spaceType", .string "l2")]

/-- A host that has built one index and asked for nothing else. -/
def builtOnce : Session BuiltinIndex :=
  run BackendKind.layered.backend .oldest ⟨⟨[], []⟩, 0, []⟩
    [.build [4, -3] Engine.tenths spaceOnly "a.idx"]

theorem builtOnce_state : ∃ manifest w₁, builtOnce.state = ⟨.empty, w₁⟩ ∧
    Engine.build BackendKind.layered.backend [4, -3] Engine.tenths .l2 .unset "a.idx"
      ⟨⟨[], []⟩, 0, []⟩ = (.ok manifest, w₁) := by
  obtain ⟨manifest, w₁, hbuild⟩ := Engine.tenths_built
  have hrequest : BuildRequest.ofJson spaceOnly = .ok ⟨.l2, .unset⟩ := by rfl
  refine ⟨manifest, w₁, ?_, hbuild⟩
  have hhost : Host.build BackendKind.layered.backend [4, -3] Engine.tenths spaceOnly "a.idx"
      ⟨⟨[], []⟩, 0, []⟩ = (.ok manifest, w₁) := by
    rw [← hbuild, Host.build, hrequest]
    rfl
  rw [builtOnce, run, List.foldl_cons, List.foldl_nil, Session.next, Operation.perform, start]
  dsimp only
  rw [hhost]
  rfl

theorem tenths_queried {manifest : Manifest} {w₁ w₂ : World} {h : LoadedIndex BuiltinIndex}
    (hbuild : Engine.build BackendKind.layered.backend [4, -3] Engine.tenths .l2 .unset "a.idx"
      ⟨⟨[], []⟩, 0, []⟩ = (.ok manifest, w₁))
    (hload : Engine.load BackendKind.layered.backend "a.idx" .l2 .unset w₁ = (.ok h, w₂)) :
    ∃ results, h.query [0, 1] 1 = .ok results := by
  have hdimension : h.dimension = 2 := by
    rw [LoadedIndex.dimension, Engine.loaded_manifest hbuild rfl hload]
    obtain ⟨dataset, metric, index, rfl, hbuilt⟩ := Engine.build_spec hbuild
    cases hbuilt.batch
    rfl
  obtain ⟨-, results, -, hquery, -⟩ := Engine.exists_query (by decide) hbuild rfl hload [0, 1]
    (fun _ => hdimension.symm) (le_refl 1)
  exact ⟨results, hquery⟩

/-- A warm-up that fails gives a number all the same, and the number answers. -/
theorem warmup_gives_misspelled : ∃ e s' results,
    (Operation.warmup misspelled).perform BackendKind.layered.backend builtOnce.state =
      (.warmed (.error e), s') ∧
    builtOnce.opened = [] ∧
    (builtOnce.next BackendKind.layered.backend (.warmup misspelled)).opened.map Prod.fst = [1] ∧
    (Operation.query 1 [0, 1] 1).perform BackendKind.layered.backend s' =
      (.found (.ok results), s') := by
  obtain ⟨manifest, w₁, hstate, hbuild⟩ := builtOnce_state
  obtain ⟨h, w₂, hload, hwarmup⟩ := misspelled_fails hbuild
  obtain ⟨results, hquery⟩ := tenths_queried hbuild hload
  rw [hstate]
  refine ⟨_, _, results, congrArg (Prod.map Answer.warmed id) hwarmup, rfl, ?_, ?_⟩
  · have haccounted : (builtOnce.next BackendKind.layered.backend (.warmup misspelled)).Accounted :=
      next_accounted (run_accounted _ _ _ _) _ _
    have hstate' : (builtOnce.next BackendKind.layered.backend (.warmup misspelled)).state =
        ⟨(HandleTable.empty.insert h (w₁.files.normalize "a.idx")).2, w₂⟩ := by
      rw [Session.next, Operation.perform, hstate, hwarmup]
      rfl
    have hlength := haccounted.next
    rw [hstate'] at hlength
    rw [haccounted.numbered, ← Nat.succ.inj hlength]
    rfl
  · rw [Operation.perform, query_of_pos Int.one_pos, ← hquery]
    rfl

end Tenths

end Session

end Vicinity.Host
