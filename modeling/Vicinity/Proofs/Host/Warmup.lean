import Mathlib.Data.List.Dedup
import Vicinity.Proofs.Host.Registration

/-!
What warming up a list of indexes does to the table. Each entry is refused, found in the table, or
loaded and put at the end of the table under the next number; the files stay as they are, so an
entry has the same place from the first to the last step. The places in the table grow by those of
the entries that were not there yet, each once. A list that fails has done the same for the entries
before the one that failed.
-/

namespace Vicinity

namespace Host

/-- Where the file of an entry is. -/
def WarmupEntry.place (entry : WarmupEntry) (fs : Files) : List String :=
  Files.names (fs.normalize entry.path)

variable {σ : Type}

/-- The index that is loaded for an entry, with its number; there is none for a file that is in the
table. -/
def openedByWarm (b : Backend σ) (entry : WarmupEntry) (s : State σ) : List (Nat × LoadedIndex σ) :=
  match Space.ofName entry.spaceType,
    s.handles.findByPath? (s.world.files.normalize entry.path) with
  | .ok space, none => opened b entry.path ⟨space, QueryParams.unset⟩ s
  | _, _ => []

/-- The indexes that are loaded for a list of entries, with their numbers, up to one that fails. -/
def openedByWarmup (b : Backend σ) : List WarmupEntry → State σ → List (Nat × LoadedIndex σ)
  | [], _ => []
  | entry :: rest, s =>
    openedByWarm b entry s ++
      match warm b entry s with
      | (.ok _, s) => openedByWarmup b rest s
      | (.error _, _) => []

variable {b : Backend σ} {entry : WarmupEntry} {entries : List WarmupEntry} {s s' s₁ : State σ}
  {handle : Nat} {handles : List Nat} {e : Error} {loaded : LoadedIndex σ}
  {more : List (Nat × LoadedIndex σ)} {result : Except Error Nat}

section Step

/-- What warming up one entry can come to. -/
inductive Warmed (b : Backend σ) (entry : WarmupEntry) (s : State σ) :
    List (Nat × LoadedIndex σ) → Except Error Nat → State σ → Prop
  | refused {e : Error} {s' : State σ} (files : s'.world.files = s.world.files)
      (handles : s'.handles = s.handles) : Warmed b entry s [] (.error e) s'
  | found {handle : Nat} {loaded : LoadedIndex σ}
      (space : Space.ofName entry.spaceType = .ok loaded.space)
      (known : s.handles.Holds handle loaded (entry.place s.world.files)) :
      Warmed b entry s [] (.ok handle) s
  | loaded {loaded : LoadedIndex σ} {w : World} (files : w.files = s.world.files)
      (space : Space.ofName entry.spaceType = .ok loaded.space)
      (unknown : entry.place s.world.files ∉ s.handles.places)
      (load : Engine.load b entry.path loaded.space .unset s.world = (.ok loaded, w)) :
      Warmed b entry s [(s.handles.next, loaded)] (.ok s.handles.next)
        ⟨(s.handles.insert loaded (s.world.files.normalize entry.path)).2, w⟩

theorem warm_spec (h : warm b entry s = (result, s')) :
    Warmed b entry s (openedByWarm b entry s) result s' := by
  unfold warm at h
  unfold openedByWarm
  cases hspace : Space.ofName entry.spaceType with
  | error e =>
      rw [hspace] at h
      cases h
      exact .refused rfl rfl
  | ok space =>
      rw [hspace] at h
      dsimp only at h
      cases hfind : s.handles.findByPath? (s.world.files.normalize entry.path) with
      | some found =>
          rw [hfind] at h
          dsimp only at h ⊢
          split at h
          · rename_i hsame
            cases h
            exact .found (hsame ▸ hspace) (HandleTable.holds_of_findByPath? hfind)
          · cases h
            exact .refused rfl rfl
      | none =>
          rw [hfind] at h
          have hunknown := HandleTable.findByPath?_eq_none_iff.mp hfind
          have hregistered := register_spec h
          dsimp only
          generalize opened b entry.path ⟨space, .unset⟩ s = more at hregistered ⊢
          cases hregistered with
          | refused files handles => exact .refused files handles
          | loaded files same load =>
              dsimp only at same load
              subst same
              exact .loaded files hspace hunknown load

theorem Warmed.grows (h : Warmed b entry s more result s') : Grows s more s' := by
  cases h with
  | refused files handles => exact .of_handles_eq files handles
  | found => exact .of_handles_eq rfl rfl
  | loaded files => exact .insert files _ _

end Step

section Asked

variable {α : Type} {before after later asked asked' : List α}

/-- Whether a list grew by what was asked for and not in it yet, each once. -/
def Adds (before after asked : List α) : Prop :=
  ∃ fresh, after = before ++ fresh ∧ fresh.Nodup ∧ ∀ x, x ∈ fresh ↔ x ∉ before ∧ x ∈ asked

theorem Adds.of_subset (h : ∀ x ∈ asked, x ∈ before) : Adds before before asked := by
  refine ⟨[], (List.append_nil _).symm, List.nodup_nil, fun x => ?_⟩
  simp only [List.not_mem_nil, false_iff, not_and]
  exact fun hnew hx => hnew (h x hx)

theorem Adds.concat {x : α} (h : x ∉ before) : Adds before (before ++ [x]) [x] := by
  refine ⟨[x], rfl, List.nodup_singleton x, fun y => ?_⟩
  constructor
  · intro hy
    rw [List.mem_singleton.mp hy]
    exact ⟨h, List.mem_singleton_self x⟩
  · exact fun hy => hy.2

theorem Adds.trans (h : Adds before after asked) (h' : Adds after later asked') :
    Adds before later (asked ++ asked') := by
  obtain ⟨fresh, rfl, hnodup, hfresh⟩ := h
  obtain ⟨fresh', rfl, hnodup', hfresh'⟩ := h'
  refine ⟨fresh ++ fresh', List.append_assoc _ _ _, ?_, fun x => ?_⟩
  · refine hnodup.append hnodup' fun x hx hx' => ?_
    exact ((hfresh' x).mp hx').1 (List.mem_append_right _ hx)
  · rw [List.mem_append, List.mem_append, hfresh, hfresh', List.mem_append, hfresh]
    tauto

theorem Adds.nodup (h : Adds before after asked) (hbefore : before.Nodup) : after.Nodup := by
  obtain ⟨fresh, rfl, hnodup, hfresh⟩ := h
  exact hbefore.append hnodup fun x hx hx' => ((hfresh x).mp hx').1 hx

theorem Adds.length_eq [DecidableEq α] [DecidablePred fun x => x ∉ before]
    (h : Adds before after asked) :
    after.length = before.length + ((asked.filter (· ∉ before)).dedup).length := by
  obtain ⟨fresh, rfl, hnodup, hfresh⟩ := h
  have hsame : fresh.Perm (asked.filter (· ∉ before)).dedup := by
    refine (List.perm_ext_iff_of_nodup hnodup (List.nodup_dedup _)).mpr fun x => ?_
    rw [hfresh, List.mem_dedup, List.mem_filter, decide_eq_true_iff]
    exact and_comm
  rw [List.length_append, hsame.length_eq]

theorem Adds.length_eq_iff (h : Adds before after asked) :
    after.length = before.length ↔ ∀ x ∈ asked, x ∈ before := by
  obtain ⟨fresh, rfl, -, hfresh⟩ := h
  constructor
  · intro hlength x hx
    have hnone : fresh = [] := by
      refine List.eq_nil_of_length_eq_zero ?_
      rw [List.length_append] at hlength
      omega
    by_contra hnew
    have hmem := (hfresh x).mpr ⟨hnew, hx⟩
    rw [hnone] at hmem
    exact List.not_mem_nil hmem
  · intro hall
    have hnone : fresh = [] := by
      refine List.eq_nil_iff_forall_not_mem.mpr fun x hx => ?_
      obtain ⟨hnew, hasked⟩ := (hfresh x).mp hx
      exact hnew (hall x hasked)
    rw [hnone, List.append_nil]

end Asked

section Run

theorem warmup_grows {outcome : Except Error (List Nat)} (h : warmup b entries s = (outcome, s')) :
    Grows s (openedByWarmup b entries s) s' := by
  induction entries generalizing s outcome with
  | nil =>
      cases h
      exact .of_handles_eq rfl rfl
  | cons entry rest ih =>
      rw [warmup] at h
      rw [openedByWarmup]
      rcases hwarm : warm b entry s with ⟨_ | handle, s₁⟩
      · rw [hwarm] at h
        cases h
        rw [List.append_nil]
        exact (warm_spec hwarm).grows
      · rw [hwarm] at h
        dsimp only at h ⊢
        rcases hrest : warmup b rest s₁ with ⟨_ | handles, s₂⟩
        · rw [hrest] at h
          cases h
          exact (warm_spec hwarm).grows.trans (ih hrest)
        · rw [hrest] at h
          cases h
          exact (warm_spec hwarm).grows.trans (ih hrest)

/-- A list succeeds if its first entry does and then the others. -/
theorem warmup_cons_eq_ok :
    warmup b (entry :: entries) s = (.ok handles, s') ↔ ∃ handle rest s₁,
      warm b entry s = (.ok handle, s₁) ∧ warmup b entries s₁ = (.ok rest, s') ∧
      handles = handle :: rest := by
  rw [warmup]
  rcases warm b entry s with ⟨_ | handle, s₁⟩
  · simp
  · dsimp only
    rcases hrun : warmup b entries s₁ with ⟨_ | rest, s₂⟩
    · simp [hrun]
    · constructor
      · rintro ⟨⟩
        exact ⟨handle, rest, s₁, rfl, hrun, rfl⟩
      · rintro ⟨_, _, _, ⟨⟩, hrest, rfl⟩
        rw [hrun] at hrest
        cases hrest
        rfl

/-- A list fails at its first entry, or at one of the others where the first is warm. -/
theorem warmup_cons_eq_error :
    warmup b (entry :: entries) s = (.error e, s') ↔ warm b entry s = (.error e, s') ∨
      ∃ handle s₁, warm b entry s = (.ok handle, s₁) ∧ warmup b entries s₁ = (.error e, s') := by
  rw [warmup]
  rcases warm b entry s with ⟨_ | handle, s₁⟩
  · simp
  · dsimp only
    rcases hrun : warmup b entries s₁ with ⟨_ | rest, s₂⟩
    · simp [hrun]
    · simp [hrun]

/-- Whether a number stands for an index of an entry's space from the file at its place. -/
def Warm (t : HandleTable σ) (fs : Files) (entry : WarmupEntry) (handle : Nat) : Prop :=
  ∃ loaded, t.Holds handle loaded (entry.place fs) ∧ Space.ofName entry.spaceType = .ok loaded.space

theorem Warm.mono {t t' : HandleTable σ} {fs : Files} (h : Warm t fs entry handle)
    (hkept : t.entries <+: t'.entries) : Warm t' fs entry handle := by
  obtain ⟨loaded, ⟨path, hmem, hplace⟩, hspace⟩ := h
  exact ⟨loaded, ⟨path, hkept.subset hmem, hplace⟩, hspace⟩

theorem warm_eq_ok (h : warm b entry s = (.ok handle, s')) :
    Adds s.handles.places s'.handles.places [entry.place s.world.files] ∧
      Warm s'.handles s.world.files entry handle := by
  have hspec := warm_spec h
  generalize openedByWarm b entry s = more at hspec
  cases hspec with
  | found space known =>
      refine ⟨.of_subset fun place hplace => ?_, _, known, space⟩
      rw [List.mem_singleton.mp hplace]
      exact known.mem_places
  | loaded files space unknown load =>
      refine ⟨?_, _, HandleTable.holds_insert _ _ _, space⟩
      rw [HandleTable.places_insert]
      exact .concat unknown

/-- A list that succeeds adds the places of its entries that were not in the table. -/
theorem warmup_adds (h : warmup b entries s = (.ok handles, s')) :
    Adds s.handles.places s'.handles.places
      (entries.map fun entry => entry.place s.world.files) := by
  induction entries generalizing s handles with
  | nil =>
      cases h
      exact .of_subset fun _ hplace => absurd hplace List.not_mem_nil
  | cons entry rest ih =>
      obtain ⟨handle, handles, s₁, hwarm, hrest, -⟩ := warmup_cons_eq_ok.mp h
      have hadds := ih hrest
      rw [(warm_spec hwarm).grows.files] at hadds
      exact (warm_eq_ok hwarm).1.trans hadds

/-- After a list that succeeds, each number stands for the index of its entry. -/
theorem warmup_warm (h : warmup b entries s = (.ok handles, s')) :
    List.Forall₂ (Warm s'.handles s.world.files) entries handles := by
  induction entries generalizing s handles with
  | nil =>
      cases h
      exact .nil
  | cons entry rest ih =>
      obtain ⟨handle, handles, s₁, hwarm, hrest, rfl⟩ := warmup_cons_eq_ok.mp h
      have hothers := ih hrest
      rw [(warm_spec hwarm).grows.files] at hothers
      exact .cons ((warm_eq_ok hwarm).2.mono (warmup_grows hrest).kept) hothers

/-- A list that succeeds tells all numbers that it gave. -/
theorem mem_handles_of_opened (h : warmup b entries s = (.ok handles, s'))
    {o : Nat × LoadedIndex σ} (ho : o ∈ openedByWarmup b entries s) : o.1 ∈ handles := by
  induction entries generalizing s handles with
  | nil => exact absurd ho List.not_mem_nil
  | cons entry rest ih =>
      obtain ⟨handle, handles, s₁, hwarm, hrest, rfl⟩ := warmup_cons_eq_ok.mp h
      have hspec := warm_spec hwarm
      rw [openedByWarmup, hwarm] at ho
      dsimp only at ho
      rcases List.mem_append.mp ho with hfirst | hothers
      · generalize openedByWarm b entry s = more at hspec hfirst
        cases hspec with
        | found => exact absurd hfirst List.not_mem_nil
        | loaded =>
            rw [List.mem_singleton.mp hfirst]
            exact List.mem_cons_self
      · exact List.mem_cons_of_mem _ (ih hrest hothers)

/-- An entry whose file is not in the table is warm if it can be loaded. -/
theorem warm_of_load {space : Space} {w : World} (hspace : Space.ofName entry.spaceType = .ok space)
    (hunknown : entry.place s.world.files ∉ s.handles.places)
    (hload : Engine.load b entry.path space .unset s.world = (.ok loaded, w)) :
    warm b entry s = (.ok s.handles.next,
      ⟨(s.handles.insert loaded (s.world.files.normalize entry.path)).2, w⟩) := by
  have hfiles := Engine.keepsFiles_load b entry.path space .unset s.world
  have hfind := HandleTable.findByPath?_eq_none_iff.mpr hunknown
  rw [hload] at hfiles
  unfold warm register
  rw [hspace]
  dsimp only
  rw [hfind]
  dsimp only
  rw [hload]
  dsimp only at hfiles ⊢
  rw [hfiles]
  rfl

/-- The table grows by as many indexes as there are places among the entries that it did not
know. -/
theorem size_of_warmup (h : warmup b entries s = (.ok handles, s')) :
    s'.handles.size = s.handles.size + ((entries.map fun entry =>
      entry.place s.world.files).filter (· ∉ s.handles.places)).dedup.length := by
  rw [HandleTable.size_eq_length_places, (warmup_adds h).length_eq,
    ← HandleTable.size_eq_length_places]

/-- A list that fails has warmed up the entries before the one that failed, and has the table that
they left. -/
theorem exists_failing (h : warmup b entries s = (.error e, s')) :
    ∃ done failing rest handles s₁, entries = done ++ failing :: rest ∧
      warmup b done s = (.ok handles, s₁) ∧ warm b failing s₁ = (.error e, s') ∧
      s'.handles = s₁.handles ∧ openedByWarmup b entries s = openedByWarmup b done s := by
  induction entries generalizing s with
  | nil => cases h
  | cons entry others ih =>
      rw [openedByWarmup]
      rcases warmup_cons_eq_error.mp h with hfirst | ⟨handle, s₁, hwarm, hothers⟩
      · have hspec := warm_spec hfirst
        rw [hfirst]
        dsimp only
        generalize openedByWarm b entry s = more at hspec ⊢
        cases hspec with
        | refused files handles =>
            exact ⟨[], entry, others, [], s, rfl, rfl, hfirst, handles, rfl⟩
      · obtain ⟨done, failing, rest, handles, s₂, rfl, hdone, hfailing, hsame, hopened⟩ :=
          ih hothers
        refine ⟨entry :: done, failing, rest, handle :: handles, s₂, rfl,
          warmup_cons_eq_ok.mpr ⟨handle, handles, s₁, hwarm, hdone, rfl⟩, hfailing, hsame, ?_⟩
        rw [openedByWarmup, hwarm]
        dsimp only
        rw [hopened]

/-- A list that succeeds opens nothing, and leaves the table alone, if and only if all its files
were loaded already. -/
theorem handles_eq_iff (h : warmup b entries s = (.ok handles, s')) :
    s'.handles = s.handles ↔ ∀ entry ∈ entries, entry.place s.world.files ∈ s.handles.places := by
  have hgrows := warmup_grows h
  have hlength := (warmup_adds h).length_eq_iff
  rw [← HandleTable.size_eq_length_places, ← HandleTable.size_eq_length_places,
    List.forall_mem_map] at hlength
  rw [← hlength, hgrows.handles_eq_iff, hgrows.size_eq_iff]

end Run

end Host

end Vicinity
