import Vicinity.Engine

/-!
What has happened where an operation on indexes succeeded. An operation succeeds if each of its
steps does, so a build or a load that succeeds is taken apart into what its calls gave. A load
leaves the files as they are, whether it succeeds or not.
-/

namespace Vicinity

def World.noted (w : World) (c : Call) : World := { w with journal := w.journal ++ [c] }

namespace Action

variable {α β : Type} {w w' : World}

/-- An operation in two parts goes on from where the first part left the world. -/
theorem bind_run (x : Action α) (f : α → Action β) (w : World) :
    (x >>= f) w = match x w with
      | (.ok a, v) => f a v
      | (.error e, v) => (.error e, v) := by
  have hbind : (x >>= f) w =
      (match x w with | (r, v) => (ExceptT.bindCont f r : StateM World (Except Error β)) v) := rfl
  rw [hbind]
  rcases x w with ⟨_ | _, _⟩ <;> rfl

theorem bind_eq_ok {x : Action α} {f : α → Action β} {b : β} :
    (x >>= f) w = (.ok b, w') ↔ ∃ a v, x w = (.ok a, v) ∧ f a v = (.ok b, w') := by
  rw [bind_run]
  cases hx : x w with
  | mk r v =>
      cases r with
      | error e =>
          constructor
          · intro h
            cases h
          · rintro ⟨_, _, h, _⟩
            cases h
      | ok a =>
          constructor
          · intro h
            exact ⟨a, v, rfl, h⟩
          · rintro ⟨_, _, h, hf⟩
            cases h
            exact hf

/-- An operation that is known to end in some result and world ends in no other. -/
theorem eq_ok_iff {x : Action α} {r : Except Error α} {v : World} (hrun : x w = (r, v)) {b : α} :
    x w = (.ok b, w') ↔ r = .ok b ∧ v = w' := by
  rw [hrun]
  exact iff_of_eq (Prod.mk.injEq _ _ _ _)

section Run

theorem pure_run (a : α) (w : World) : (pure a : Action α) w = (.ok a, w) := rfl

theorem throw_run (e : Error) (w : World) : (throw e : Action α) w = (.error e, w) := rfl

theorem get_run (w : World) : (get : Action World) w = (.ok w, w) := rfl

theorem ofExcept_run (r : Except Error α) (w : World) : (ofExcept r : Action α) w = (r, w) := by
  cases r <;> rfl

theorem note_run (c : Call) (w : World) : note c w = (.ok (), w.noted c) := rfl

theorem call_run (c : Call) (r : Except Error α) (w : World) : call c r w = (r, w.noted c) := by
  rw [call, bind_run, note_run]
  exact ofExcept_run r _

theorem reading_run (f : Files → Except Error α) (w : World) :
    reading f w = (f w.files, w) := by
  rw [reading, bind_run, get_run]
  exact ofExcept_run _ w

theorem writing_run (f : Files → Except Error α × Files) (w : World) :
    writing f w = ((f w.files).1, { w with files := (f w.files).2 }) :=
  ofExcept_run (f w.files).1 { w with files := (f w.files).2 }

theorem replacing_run (f : Files → Except Error Files) (w : World) :
    replacing f w = match f w.files with
      | .ok fs => (.ok (), { w with files := fs })
      | .error e => (.error e, w) := by
  rw [replacing, writing_run]
  cases f w.files <;> rfl

end Run

theorem pure_eq_ok {a b : α} : (pure a : Action α) w = (.ok b, w') ↔ a = b ∧ w = w' :=
  (eq_ok_iff (pure_run a w)).trans (by simp)

theorem throw_eq_ok {e : Error} {b : α} : (throw e : Action α) w = (.ok b, w') ↔ False :=
  (eq_ok_iff (throw_run e w)).trans (by simp)

theorem ofExcept_eq_ok {r : Except Error α} {b : α} :
    (ofExcept r : Action α) w = (.ok b, w') ↔ r = .ok b ∧ w = w' :=
  eq_ok_iff (ofExcept_run r w)

theorem get_eq_ok {v : World} : (get : Action World) w = (.ok v, w') ↔ w = v ∧ w = w' :=
  (eq_ok_iff (get_run w)).trans (by simp)

theorem note_eq_ok {c : Call} {u : Unit} : note c w = (.ok u, w') ↔ w.noted c = w' :=
  (eq_ok_iff (note_run c w)).trans (by simp)

theorem call_eq_ok {c : Call} {r : Except Error α} {b : α} :
    call c r w = (.ok b, w') ↔ r = .ok b ∧ w.noted c = w' :=
  eq_ok_iff (call_run c r w)

theorem reading_eq_ok {f : Files → Except Error α} {b : α} :
    reading f w = (.ok b, w') ↔ f w.files = .ok b ∧ w = w' :=
  eq_ok_iff (reading_run f w)

theorem writing_eq_ok {f : Files → Except Error α × Files} {b : α} :
    writing f w = (.ok b, w') ↔ ∃ fs, f w.files = (.ok b, fs) ∧ { w with files := fs } = w' := by
  refine (eq_ok_iff (writing_run f w)).trans ?_
  rcases f w.files with ⟨r, fs⟩
  simp [and_assoc]

theorem replacing_eq_ok {f : Files → Except Error Files} {u : Unit} :
    replacing f w = (.ok u, w') ↔ ∃ fs, f w.files = .ok fs ∧ { w with files := fs } = w' := by
  rw [replacing, writing_eq_ok]
  cases f w.files <;> simp

/-- Whether an operation leaves the files as they are, also where it fails. -/
def KeepsFiles (x : Action α) : Prop := ∀ w, (x w).2.files = w.files

theorem KeepsFiles.bind {x : Action α} {f : α → Action β} (hx : x.KeepsFiles)
    (hf : ∀ a, (f a).KeepsFiles) : (x >>= f).KeepsFiles := by
  intro w
  have hfirst := hx w
  rw [bind_run]
  cases hrun : x w with
  | mk r v =>
      rw [hrun] at hfirst
      cases r with
      | error e => exact hfirst
      | ok a => exact (hf a v).trans hfirst

theorem keepsFiles_pure (a : α) : (pure a : Action α).KeepsFiles := fun _ => rfl

theorem keepsFiles_get : (get : Action World).KeepsFiles := fun _ => rfl

theorem keepsFiles_note (c : Call) : (note c).KeepsFiles := fun _ => rfl

theorem keepsFiles_ofExcept (r : Except Error α) : (ofExcept r : Action α).KeepsFiles := by
  cases r <;> exact fun _ => rfl

theorem keepsFiles_call (c : Call) (r : Except Error α) : (call c r).KeepsFiles :=
  (keepsFiles_note c).bind fun _ => keepsFiles_ofExcept r

theorem keepsFiles_reading (f : Files → Except Error α) : (reading f).KeepsFiles :=
  keepsFiles_get.bind fun _ => keepsFiles_ofExcept _

end Action

namespace Engine

variable {σ : Type} {b : Backend σ} {ids : List Int} {vectors : List RawVector} {space : Space}
  {output path : String} {w w' : World} {manifest : Manifest}

def manifestOf (b : Backend σ) (space : Space) (params : BuildParams) (dataset : Dataset)
    (createdAt : Int) : Manifest :=
  { formatVersion := Manifest.currentVersion, space, dimension := dataset.dimension,
    vectorCount := dataset.size, backend := b.name, buildParams := params, createdAt }

/-- What a build that succeeds has done. -/
structure Built (b : Backend σ) (ids : List Int) (vectors : List RawVector) (space : Space)
    (params : BuildParams) (output : String) (w w' : World) (dataset : Dataset)
    (metric : MetricSpace) (index : σ) : Prop where
  valid : params.validate = .ok ()
  batch : Dataset.build space ids vectors = .ok dataset
  compared : b.createSpace space = .ok metric
  constructed : ∃ empty, b.createIndex metric = .ok empty ∧
    b.construct metric dataset params.toParams empty = (.ok (), index)
  counted : b.size index = dataset.size
  saved : ∃ fs, b.save index output w.files = (.ok (), fs) ∧
    (manifestOf b space params dataset w.clock).write output fs = .ok w'.files

theorem build_spec {params : BuildParams}
    (h : build b ids vectors space params output w = (.ok manifest, w')) :
    ∃ dataset metric index, manifest = manifestOf b space params dataset w.clock ∧
      Built b ids vectors space params output w w' dataset metric index := by
  unfold build at h
  simp only [Action.bind_eq_ok, Action.ofExcept_eq_ok, Action.call_eq_ok] at h
  obtain ⟨⟨⟩, _, ⟨hvalid, rfl⟩, dataset, _, ⟨hbatch, rfl⟩, metric, _, ⟨hmetric, rfl⟩, empty, _,
    ⟨hempty, rfl⟩, ⟨⟩, _, ⟨hconstruct, rfl⟩, h⟩ := h
  split at h
  · simp only [Action.bind_eq_ok, Action.throw_eq_ok, false_and, exists_false] at h
  rename_i hcount
  simp only [Action.bind_eq_ok, Action.note_eq_ok, Action.writing_eq_ok, Action.get_eq_ok,
    Action.replacing_eq_ok, Action.pure_eq_ok] at h
  obtain ⟨⟨⟩, _, rfl, ⟨⟩, _, ⟨fs, hsave, rfl⟩, _, _, ⟨rfl, rfl⟩, ⟨⟩, _, ⟨fs', hwrite, rfl⟩,
    rfl, rfl⟩ := h
  refine ⟨dataset, metric, (b.construct metric dataset params.toParams empty).2, rfl, ?_⟩
  exact
    { valid := hvalid, batch := hbatch, compared := hmetric
      constructed := ⟨empty, hempty, Prod.ext hconstruct rfl⟩
      counted := Classical.not_not.mp hcount
      saved := ⟨fs, hsave, hwrite⟩ }

/-- What a load that succeeds has done. -/
structure Loaded (b : Backend σ) (path : String) (space : Space) (params : QueryParams)
    (w w' : World) (h : LoadedIndex σ) : Prop where
  valid : params.validate = .ok ()
  described : Manifest.read path w.files = .ok h.manifest
  accepted : h.manifest.validate space b.name = .ok ()
  compared : b.createSpace space = .ok h.metric
  opened : ∃ empty index, b.createIndex h.metric = .ok empty ∧
    b.load h.metric path h.manifest w.files empty = (.ok (), index) ∧
    b.setParams params.toParams index = (.ok (), h.index)
  held : h.backend = b
  files : w'.files = w.files

theorem load_spec {params : QueryParams} {h : LoadedIndex σ}
    (hload : load b path space params w = (.ok h, w')) : Loaded b path space params w w' h := by
  unfold load at hload
  simp only [Action.bind_eq_ok, Action.ofExcept_eq_ok, Action.call_eq_ok, Action.note_eq_ok,
    Action.reading_eq_ok, Action.get_eq_ok, Action.pure_eq_ok] at hload
  obtain ⟨⟨⟩, _, ⟨hvalid, rfl⟩, manifest, _, ⟨hread, rfl⟩, ⟨⟩, _, ⟨haccept, rfl⟩, metric, _,
    ⟨hmetric, rfl⟩, empty, _, ⟨hempty, rfl⟩, ⟨⟩, _, rfl, _, _, ⟨rfl, rfl⟩, ⟨⟩, _, ⟨hopen, rfl⟩,
    ⟨⟩, _, ⟨hset, rfl⟩, rfl, rfl⟩ := hload
  exact
    { valid := hvalid, described := hread, accepted := haccept, compared := hmetric
      opened := ⟨empty, _, hempty, Prod.ext hopen rfl, Prod.ext hset rfl⟩
      held := rfl, files := rfl }

/-- The manifest of an index names the space and the backend that its load asked for. -/
theorem manifest_of_loaded {params : QueryParams} {h : LoadedIndex σ}
    (hloaded : Loaded b path space params w w' h) :
    h.manifest.space = space ∧ h.manifest.backend = b.name := by
  have haccepted := hloaded.accepted
  unfold Manifest.validate at haccepted
  split at haccepted
  · simp at haccepted
  rename_i hspace
  split at haccepted
  · simp at haccepted
  rename_i hbackend
  exact ⟨Classical.not_not.mp hspace, Classical.not_not.mp hbackend⟩

/-- A load writes nothing. -/
theorem keepsFiles_load (b : Backend σ) (path : String) (space : Space) (params : QueryParams) :
    (load b path space params).KeepsFiles := by
  unfold load
  refine (Action.keepsFiles_ofExcept _).bind fun _ => ?_
  refine (Action.keepsFiles_reading _).bind fun manifest => ?_
  refine (Action.keepsFiles_ofExcept _).bind fun _ => ?_
  refine (Action.keepsFiles_call _ _).bind fun metric => ?_
  refine (Action.keepsFiles_call _ _).bind fun empty => ?_
  refine (Action.keepsFiles_note _).bind fun _ => ?_
  refine Action.keepsFiles_get.bind fun w => ?_
  refine (Action.keepsFiles_ofExcept _).bind fun _ => ?_
  exact (Action.keepsFiles_call _ _).bind fun _ => Action.keepsFiles_pure _

/-- A load succeeds if all its steps do. -/
theorem load_of_steps {params : QueryParams} {metric : MetricSpace} {empty index tuned : σ}
    (hvalid : params.validate = .ok ()) (hread : Manifest.read path w.files = .ok manifest)
    (haccepted : manifest.validate space b.name = .ok ())
    (hcompared : b.createSpace space = .ok metric) (hempty : b.createIndex metric = .ok empty)
    (hopened : b.load metric path manifest w.files empty = (.ok (), index))
    (hset : b.setParams params.toParams index = (.ok (), tuned)) :
    ∃ w', load b path space params w = (.ok ⟨b, tuned, metric, manifest⟩, w') := by
  obtain rfl : (b.load metric path manifest w.files empty).2 = index := congrArg Prod.snd hopened
  obtain rfl : (b.setParams params.toParams (b.load metric path manifest w.files empty).2).2 =
    tuned := congrArg Prod.snd hset
  refine ⟨((((w.noted (.createSpace space)).noted (.createIndex metric.space.storedName)).noted
    (.load path)).noted (.setParams params.toParams)), ?_⟩
  unfold load
  simp only [Action.bind_eq_ok, Action.ofExcept_eq_ok, Action.call_eq_ok, Action.note_eq_ok,
    Action.reading_eq_ok, Action.get_eq_ok, Action.pure_eq_ok]
  exact ⟨(), _, ⟨hvalid, rfl⟩, manifest, _, ⟨hread, rfl⟩, (), _, ⟨haccepted, rfl⟩, metric, _,
    ⟨hcompared, rfl⟩, empty, _, ⟨hempty, rfl⟩, (), _, rfl, _, _, ⟨rfl, rfl⟩, (), _,
    ⟨congrArg Prod.fst hopened, rfl⟩, (), _, ⟨congrArg Prod.fst hset, rfl⟩, rfl, rfl⟩

end Engine

end Vicinity
