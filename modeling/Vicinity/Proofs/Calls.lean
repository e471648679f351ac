import Vicinity.Proofs.Engine
import Vicinity.Proofs.Params

/-!
The calls that a build or a load makes of a backend, whatever the backend does. Each operation makes
its calls in one fixed order and ends with the first step that fails, so its calls are a prefix of
those of an operation that succeeds, and its error is the one that the step gave. What has to be
checked beforehand is checked before the first call.
-/

namespace Vicinity

/-- A world after calls, with other files. -/
def World.after (w : World) (calls : List Call) (files : Files) : World :=
  { w with files := files, journal := w.journal ++ calls }

namespace World

variable (w : World) (calls more : List Call) (files fs : Files) (c : Call)

theorem after_nil : w.after [] w.files = w := by simp [after]

theorem noted_eq : w.noted c = w.after [c] w.files := rfl

theorem after_after : (w.after calls files).after more fs = w.after (calls ++ more) fs := by
  simp [after]

theorem files_after : (w.after calls files).files = files := rfl

theorem clock_after : (w.after calls files).clock = w.clock := rfl

theorem eq_nil_of_after {w : World} {calls : List Call} {files : Files}
    (h : w.after calls files = w) : calls = [] :=
  List.append_right_eq_self.mp (congrArg World.journal h)

end World

namespace Engine

variable {σ : Type} {b : Backend σ} {w w' : World}

section Build

variable {ids : List Int} {vectors : List RawVector} {space : Space} {params : BuildParams}
  {output : String}

/-- Why a build is refused before anything is called: the first check that does not pass. -/
inductive BuildRefused (ids : List Int) (vectors : List RawVector) (space : Space)
    (params : BuildParams) : Error → Prop
  | invalid {e : Error} (refused : params.validate = .error e) :
      BuildRefused ids vectors space params e
  | unshaped {e : Error} (valid : params.validate = .ok ())
      (refused : Dataset.build space ids vectors = .error e) :
      BuildRefused ids vectors space params e

/-- What a build has got from its first three calls. -/
structure Made (b : Backend σ) (ids : List Int) (vectors : List RawVector) (space : Space)
    (params : BuildParams) (dataset : Dataset) (metric : MetricSpace) (index : σ) : Prop where
  valid : params.validate = .ok ()
  batch : Dataset.build space ids vectors = .ok dataset
  compared : b.createSpace space = .ok metric
  constructed : ∃ empty, b.createIndex metric = .ok empty ∧
    b.construct metric dataset params.toParams empty = (.ok (), index)

theorem Built.made {dataset : Dataset} {metric : MetricSpace} {index : σ}
    (h : Built b ids vectors space params output w w' dataset metric index) :
    Made b ids vectors space params dataset metric index :=
  ⟨h.valid, h.batch, h.compared, h.constructed⟩

/-- The calls of a build in their order; `stored` is the name under which the space is stored. -/
def buildCalls (space : Space) (stored : String) (params : BuildParams) (output : String) :
    List Call :=
  [.createSpace space, .createIndex stored, .construct ⟨params.present⟩, .save output]

/-- How a build ends: the calls it has made, the files it leaves, and its result. One case for what
is refused beforehand, one for each later step that can fail after all steps before it have
succeeded, and one for all of them. -/
inductive BuildEnds (b : Backend σ) (ids : List Int) (vectors : List RawVector) (space : Space)
    (params : BuildParams) (output : String) (w : World) :
    List Call → Files → Except Error Manifest → Prop
  | refused {e : Error} (refused : BuildRefused ids vectors space params e) :
      BuildEnds b ids vectors space params output w [] w.files (.error e)
  | noSpace {dataset : Dataset} {e : Error} (valid : params.validate = .ok ())
      (batch : Dataset.build space ids vectors = .ok dataset)
      (failed : b.createSpace space = .error e) :
      BuildEnds b ids vectors space params output w [.createSpace space] w.files (.error e)
  | noIndex {dataset : Dataset} {metric : MetricSpace} {e : Error}
      (valid : params.validate = .ok ()) (batch : Dataset.build space ids vectors = .ok dataset)
      (compared : b.createSpace space = .ok metric) (failed : b.createIndex metric = .error e) :
      BuildEnds b ids vectors space params output w
        ((buildCalls space metric.space.storedName params output).take 2) w.files (.error e)
  | notConstructed {dataset : Dataset} {metric : MetricSpace} {empty index : σ} {e : Error}
      (valid : params.validate = .ok ()) (batch : Dataset.build space ids vectors = .ok dataset)
      (compared : b.createSpace space = .ok metric) (opened : b.createIndex metric = .ok empty)
      (failed : b.construct metric dataset params.toParams empty = (.error e, index)) :
      BuildEnds b ids vectors space params output w
        ((buildCalls space metric.space.storedName params output).take 3) w.files (.error e)
  | miscounted {dataset : Dataset} {metric : MetricSpace} {index : σ}
      (made : Made b ids vectors space params dataset metric index)
      (failed : b.size index ≠ dataset.size) :
      BuildEnds b ids vectors space params output w
        ((buildCalls space metric.space.storedName params output).take 3) w.files
        (.error (.index (.shortCount b.name (b.size index) dataset.size)))
  | notSaved {dataset : Dataset} {metric : MetricSpace} {index : σ} {e : Error} {fs : Files}
      (made : Made b ids vectors space params dataset metric index)
      (counted : b.size index = dataset.size)
      (failed : b.save index output w.files = (.error e, fs)) :
      BuildEnds b ids vectors space params output w
        (buildCalls space metric.space.storedName params output) fs (.error e)
  | notDescribed {dataset : Dataset} {metric : MetricSpace} {index : σ} {e : Error} {fs : Files}
      (made : Made b ids vectors space params dataset metric index)
      (counted : b.size index = dataset.size)
      (saved : b.save index output w.files = (.ok (), fs))
      (failed : (manifestOf b space params dataset w.clock).write output fs = .error e) :
      BuildEnds b ids vectors space params output w
        (buildCalls space metric.space.storedName params output) fs (.error e)
  | finished {dataset : Dataset} {metric : MetricSpace} {index : σ} {fs fs' : Files}
      (made : Made b ids vectors space params dataset metric index)
      (counted : b.size index = dataset.size)
      (saved : b.save index output w.files = (.ok (), fs))
      (described : (manifestOf b space params dataset w.clock).write output fs = .ok fs') :
      BuildEnds b ids vectors space params output w
        (buildCalls space metric.space.storedName params output) fs'
        (.ok (manifestOf b space params dataset w.clock))

/-- The part of a build after its first three calls. -/
def store (b : Backend σ) (space : Space) (params : BuildParams) (output : String)
    (dataset : Dataset) (index : σ) : Action Manifest := do
  if b.size index ≠ dataset.size then
    throw (.index (.shortCount b.name (b.size index) dataset.size))
  Action.note (.save output)
  Action.writing (b.save index output)
  let manifest := manifestOf b space params dataset (← get).clock
  Action.replacing (manifest.write output)
  return manifest

/-- A build whose first three calls succeed goes on with storing what it has got. -/
theorem build_of_made {dataset : Dataset} {metric : MetricSpace} {index : σ}
    (made : Made b ids vectors space params dataset metric index) (w : World) :
    build b ids vectors space params output w = store b space params output dataset index
      (w.after ((buildCalls space metric.space.storedName params output).take 3) w.files) := by
  obtain ⟨hvalid, hbatch, hmetric, empty, hempty, hconstruct⟩ := made
  simp only [build, Action.bind_run, Action.ofExcept_run, Action.call_run, hvalid, hbatch, hmetric,
    hempty, hconstruct, World.noted_eq, World.after_after]
  rw [params.toParams_eq]
  rfl

/-- Once an index is saved, all that is left to fail is its manifest. -/
theorem build_of_saved {dataset : Dataset} {metric : MetricSpace} {index : σ} {fs : Files}
    (made : Made b ids vectors space params dataset metric index)
    (counted : b.size index = dataset.size) (saved : b.save index output w.files = (.ok (), fs)) :
    build b ids vectors space params output w =
      match (manifestOf b space params dataset w.clock).write output fs with
      | .error e =>
        (.error e, w.after (buildCalls space metric.space.storedName params output) fs)
      | .ok fs' =>
        (.ok (manifestOf b space params dataset w.clock),
          w.after (buildCalls space metric.space.storedName params output) fs') := by
  rw [build_of_made made]
  simp only [store, if_neg (not_not_intro counted), Action.bind_run, Action.note_run,
    Action.writing_run, Action.get_run, Action.replacing_run, World.noted_eq, World.after_after,
    World.files_after, World.clock_after, saved]
  cases (manifestOf b space params dataset w.clock).write output fs <;> rfl

/-- What is refused leaves everything as it was. -/
theorem build_of_refused {e : Error} (h : BuildRefused ids vectors space params e) (w : World) :
    build b ids vectors space params output w = (.error e, w) := by
  cases h with
  | invalid refused => simp only [build, Action.bind_run, Action.ofExcept_run, refused]
  | unshaped valid refused =>
      simp only [build, Action.bind_run, Action.ofExcept_run, valid, refused]

/-- Every build ends in one of these ways. -/
theorem build_ends (b : Backend σ) (ids : List Int) (vectors : List RawVector) (space : Space)
    (params : BuildParams) (output : String) (w : World) :
    ∃ calls files r, build b ids vectors space params output w = (r, w.after calls files) ∧
      BuildEnds b ids vectors space params output w calls files r := by
  have refusal : ∀ {e}, BuildRefused ids vectors space params e → ∃ calls files r,
      build b ids vectors space params output w = (r, w.after calls files) ∧
        BuildEnds b ids vectors space params output w calls files r := by
    intro e hrefused
    exact ⟨_, _, _, by rw [build_of_refused hrefused, w.after_nil], .refused hrefused⟩
  cases hvalid : params.validate with
  | error e => exact refusal (.invalid hvalid)
  | ok =>
  cases hbatch : Dataset.build space ids vectors with
  | error e => exact refusal (.unshaped hvalid hbatch)
  | ok dataset =>
  cases hmetric : b.createSpace space with
  | error e =>
      refine ⟨_, _, _, ?_, .noSpace hvalid hbatch hmetric⟩
      simp only [build, Action.bind_run, Action.ofExcept_run, Action.call_run, hvalid, hbatch,
        hmetric]
      rfl
  | ok metric =>
  cases hempty : b.createIndex metric with
  | error e =>
      refine ⟨_, _, _, ?_, .noIndex hvalid hbatch hmetric hempty⟩
      simp only [build, Action.bind_run, Action.ofExcept_run, Action.call_run, hvalid, hbatch,
        hmetric, hempty, World.noted_eq, World.after_after]
      rfl
  | ok empty =>
  rcases hconstruct : b.construct metric dataset params.toParams empty with ⟨e | _, index⟩
  · refine ⟨_, _, _, ?_, .notConstructed hvalid hbatch hmetric hempty hconstruct⟩
    simp only [build, Action.bind_run, Action.ofExcept_run, Action.call_run, hvalid, hbatch,
      hmetric, hempty, hconstruct, World.noted_eq, World.after_after]
    rw [params.toParams_eq]
    rfl
  have hmade : Made b ids vectors space params dataset metric index :=
    ⟨hvalid, hbatch, hmetric, empty, hempty, hconstruct⟩
  by_cases hcount : b.size index ≠ dataset.size
  · refine ⟨_, _, _, ?_, .miscounted hmade hcount⟩
    rw [build_of_made hmade]
    simp only [store, if_pos hcount, Action.bind_run, Action.throw_run]
  have hcounted : b.size index = dataset.size := Classical.not_not.mp hcount
  rcases hsave : b.save index output w.files with ⟨e | _, fs⟩
  · refine ⟨_, _, _, ?_, .notSaved hmade hcounted hsave⟩
    rw [build_of_made hmade]
    simp only [store, if_neg hcount, Action.bind_run, Action.note_run, Action.writing_run,
      World.noted_eq, World.after_after, World.files_after, hsave]
    rfl
  cases hwrite : (manifestOf b space params dataset w.clock).write output fs with
  | error e =>
      refine ⟨_, _, _, ?_, .notDescribed hmade hcounted hsave hwrite⟩
      simp only [build_of_saved hmade hcounted hsave, hwrite]
  | ok fs' =>
      refine ⟨_, _, _, ?_, .finished hmade hcounted hsave hwrite⟩
      simp only [build_of_saved hmade hcounted hsave, hwrite]

section Ends

variable {calls : List Call} {files : Files} {r : Except Error Manifest}

theorem BuildEnds.isPrefix (h : BuildEnds b ids vectors space params output w calls files r) :
    ∃ stored, calls <+: buildCalls space stored params output := by
  cases h with
  | refused => exact ⟨"", List.nil_prefix⟩
  | noSpace => exact ⟨"", List.take_prefix 1 (buildCalls space "" params output)⟩
  | noIndex => exact ⟨_, List.take_prefix _ _⟩
  | notConstructed => exact ⟨_, List.take_prefix _ _⟩
  | miscounted => exact ⟨_, List.take_prefix _ _⟩
  | notSaved => exact ⟨_, List.prefix_rfl⟩
  | notDescribed => exact ⟨_, List.prefix_rfl⟩
  | finished => exact ⟨_, List.prefix_rfl⟩

/-- A build that has called nothing was refused. -/
theorem BuildEnds.refused_of_nil
    (h : BuildEnds b ids vectors space params output w calls files r) (hnil : calls = []) :
    ∃ e, BuildRefused ids vectors space params e ∧ r = .error e := by
  cases h with
  | refused refused => exact ⟨_, refused, rfl⟩
  | noSpace => exact absurd hnil (List.cons_ne_nil _ _)
  | noIndex => exact absurd hnil (List.cons_ne_nil _ _)
  | notConstructed => exact absurd hnil (List.cons_ne_nil _ _)
  | miscounted => exact absurd hnil (List.cons_ne_nil _ _)
  | notSaved => exact absurd hnil (List.cons_ne_nil _ _)
  | notDescribed => exact absurd hnil (List.cons_ne_nil _ _)
  | finished => exact absurd hnil (List.cons_ne_nil _ _)

/-- A build leaves the files as they were until it saves an index with as many vectors as it was
given. Where it fails from there on, it leaves what saving has left, and it writes the manifest only
where saving has succeeded. -/
theorem BuildEnds.written (h : BuildEnds b ids vectors space params output w calls files r) :
    files = w.files ∨
    (∃ dataset metric index e, Made b ids vectors space params dataset metric index ∧
      b.size index = dataset.size ∧ r = .error e ∧
      files = (b.save index output w.files).2) ∨
    ∃ dataset metric index, r = .ok (manifestOf b space params dataset w.clock) ∧
      Built b ids vectors space params output w (w.after calls files) dataset metric index := by
  cases h with
  | refused => exact .inl rfl
  | noSpace => exact .inl rfl
  | noIndex => exact .inl rfl
  | notConstructed => exact .inl rfl
  | miscounted => exact .inl rfl
  | notSaved made counted failed =>
      exact .inr (.inl ⟨_, _, _, _, made, counted, rfl, (congrArg Prod.snd failed).symm⟩)
  | notDescribed made counted saved =>
      exact .inr (.inl ⟨_, _, _, _, made, counted, rfl, (congrArg Prod.snd saved).symm⟩)
  | @finished dataset metric index _ _ made counted saved described =>
      refine .inr (.inr ⟨dataset, metric, index, rfl, ?_⟩)
      exact
        { valid := made.valid, batch := made.batch, compared := made.compared
          constructed := made.constructed, counted := counted, saved := ⟨_, saved, described⟩ }

end Ends

end Build

section Load

variable {path : String} {space : Space} {params : QueryParams} {fs : Files} {backend : String}
  {manifest : Manifest}

/-- Why a load is refused before anything is called. -/
inductive LoadRefused (path : String) (space : Space) (params : QueryParams) (backend : String)
    (fs : Files) : Error → Prop
  | invalid (zero : params.efSearch = some 0) :
      LoadRefused path space params backend fs (.badArgument (.notPositive ParamName.efSearch))
  | missing {cause : FileError} (valid : params.efSearch ≠ some 0)
      (unread : fs.read (Manifest.pathFor path) = .error cause) :
      LoadRefused path space params backend fs (.file cause)
  | malformed {text : String} (valid : params.efSearch ≠ some 0)
      (read : fs.read (Manifest.pathFor path) = .ok text) (broken : Manifest.ofText? text = none) :
      LoadRefused path space params backend fs .malformedData
  | newer {text : String} {manifest : Manifest} (valid : params.efSearch ≠ some 0)
      (read : fs.read (Manifest.pathFor path) = .ok text)
      (described : Manifest.ofText? text = some manifest)
      (later : Manifest.currentVersion < manifest.formatVersion) :
      LoadRefused path space params backend fs
        (.badArgument (.newerManifest manifest.formatVersion Manifest.currentVersion))
  | otherSpace {manifest : Manifest} (valid : params.efSearch ≠ some 0)
      (described : Manifest.read path fs = .ok manifest) (other : manifest.space ≠ space) :
      LoadRefused path space params backend fs (.spaceMismatch manifest.space space)
  | otherBackend {manifest : Manifest} (valid : params.efSearch ≠ some 0)
      (described : Manifest.read path fs = .ok manifest) (same : manifest.space = space)
      (other : manifest.backend ≠ backend) :
      LoadRefused path space params backend fs
        (.badArgument (.otherBackend manifest.backend backend))

/-- What has been found to be in order before anything is called. -/
structure LoadAccepted (path : String) (space : Space) (params : QueryParams) (backend : String)
    (fs : Files) (manifest : Manifest) : Prop where
  valid : params.validate = .ok ()
  described : Manifest.read path fs = .ok manifest
  suited : manifest.validate space backend = .ok ()

/-- The calls of a load in their order; `stored` is the name under which the space is stored. -/
def loadCalls (space : Space) (stored : String) (path : String) (params : QueryParams) :
    List Call :=
  [.createSpace space, .createIndex stored, .load path, .setParams params.toParams]

/-- How a load ends: the calls it has made and its result. One case for what is refused beforehand,
one for each call that can fail, and one for all of them. -/
inductive LoadEnds (b : Backend σ) (path : String) (space : Space) (params : QueryParams)
    (w : World) : List Call → Except Error (LoadedIndex σ) → Prop
  | refused {e : Error} (refused : LoadRefused path space params b.name w.files e) :
      LoadEnds b path space params w [] (.error e)
  | noSpace {manifest : Manifest} {e : Error}
      (accepted : LoadAccepted path space params b.name w.files manifest)
      (failed : b.createSpace space = .error e) :
      LoadEnds b path space params w [.createSpace space] (.error e)
  | noIndex {manifest : Manifest} {metric : MetricSpace} {e : Error}
      (accepted : LoadAccepted path space params b.name w.files manifest)
      (compared : b.createSpace space = .ok metric) (failed : b.createIndex metric = .error e) :
      LoadEnds b path space params w
        ((loadCalls space metric.space.storedName path params).take 2) (.error e)
  | notLoaded {manifest : Manifest} {metric : MetricSpace} {empty index : σ} {e : Error}
      (accepted : LoadAccepted path space params b.name w.files manifest)
      (compared : b.createSpace space = .ok metric) (opened : b.createIndex metric = .ok empty)
      (failed : b.load metric path manifest w.files empty = (.error e, index)) :
      LoadEnds b path space params w
        ((loadCalls space metric.space.storedName path params).take 3) (.error e)
  | notTuned {manifest : Manifest} {metric : MetricSpace} {empty index tuned : σ} {e : Error}
      (accepted : LoadAccepted path space params b.name w.files manifest)
      (compared : b.createSpace space = .ok metric) (opened : b.createIndex metric = .ok empty)
      (read : b.load metric path manifest w.files empty = (.ok (), index))
      (failed : b.setParams params.toParams index = (.error e, tuned)) :
      LoadEnds b path space params w (loadCalls space metric.space.storedName path params)
        (.error e)
  | finished {manifest : Manifest} {metric : MetricSpace} {empty index tuned : σ}
      (accepted : LoadAccepted path space params b.name w.files manifest)
      (compared : b.createSpace space = .ok metric) (opened : b.createIndex metric = .ok empty)
      (read : b.load metric path manifest w.files empty = (.ok (), index))
      (set : b.setParams params.toParams index = (.ok (), tuned)) :
      LoadEnds b path space params w (loadCalls space metric.space.storedName path params)
        (.ok ⟨b, tuned, metric, manifest⟩)

theorem validate_cases (params : QueryParams) :
    (params.efSearch = some 0 ∧
      params.validate = .error (.badArgument (.notPositive ParamName.efSearch))) ∨
    (params.efSearch ≠ some 0 ∧ params.validate = .ok ()) := by
  obtain ⟨efSearch⟩ := params
  rcases efSearch with _ | _ | n
  · exact .inr ⟨by simp, rfl⟩
  · exact .inl ⟨rfl, rfl⟩
  · exact .inr ⟨by simp, rfl⟩

/-- A manifest is either read as it stands, or it is missing, broken or too new. -/
theorem read_cases (path : String) (space : Space) (backend : String) (fs : Files)
    (valid : params.efSearch ≠ some 0) :
    (∃ e, Manifest.read path fs = .error e ∧ LoadRefused path space params backend fs e) ∨
    ∃ manifest, Manifest.read path fs = .ok manifest := by
  unfold Manifest.read
  cases hread : fs.read (Manifest.pathFor path) with
  | error cause => exact .inl ⟨_, rfl, .missing valid hread⟩
  | ok text =>
  cases htext : Manifest.ofText? text with
  | none =>
      simp only [htext]
      exact .inl ⟨_, rfl, .malformed valid hread htext⟩
  | some manifest =>
      simp only [htext]
      by_cases hlater : Manifest.currentVersion < manifest.formatVersion
      · rw [if_pos hlater]
        exact .inl ⟨_, rfl, .newer valid hread htext hlater⟩
      · rw [if_neg hlater]
        exact .inr ⟨_, rfl⟩

theorem suited_cases (space : Space) (backend : String) (valid : params.efSearch ≠ some 0)
    (hread : Manifest.read path fs = .ok manifest) :
    (∃ e, manifest.validate space backend = .error e ∧
      LoadRefused path space params backend fs e) ∨
    manifest.validate space backend = .ok () := by
  unfold Manifest.validate
  by_cases hspace : manifest.space ≠ space
  · rw [if_pos hspace]
    exact .inl ⟨_, rfl, .otherSpace valid hread hspace⟩
  · rw [if_neg hspace]
    by_cases hbackend : manifest.backend ≠ backend
    · rw [if_pos hbackend]
      exact .inl ⟨_, rfl, .otherBackend valid hread (Classical.not_not.mp hspace) hbackend⟩
    · rw [if_neg hbackend]
      exact .inr rfl

/-- What is refused is found by the first check that does not pass. -/
theorem LoadRefused.check {e : Error} (h : LoadRefused path space params backend fs e) :
    params.validate = .error e ∨ params.validate = .ok () ∧
      (Manifest.read path fs = .error e ∨ ∃ manifest, Manifest.read path fs = .ok manifest ∧
        manifest.validate space backend = .error e) := by
  have hvalid : params.efSearch ≠ some 0 → params.validate = .ok () := fun hnonzero =>
    (validate_cases params).elim (fun hzero => absurd hzero.1 hnonzero) And.right
  cases h with
  | invalid zero =>
      exact .inl ((validate_cases params).elim And.right fun hnonzero => absurd zero hnonzero.1)
  | missing valid unread =>
      refine .inr ⟨hvalid valid, .inl ?_⟩
      rw [Manifest.read, unread]
  | malformed valid read broken =>
      refine .inr ⟨hvalid valid, .inl ?_⟩
      simp only [Manifest.read, read, broken]
  | newer valid read described later =>
      refine .inr ⟨hvalid valid, .inl ?_⟩
      simp only [Manifest.read, read, described, if_pos later]
  | otherSpace valid described other =>
      refine .inr ⟨hvalid valid, .inr ⟨_, described, ?_⟩⟩
      rw [Manifest.validate, if_pos other]
  | otherBackend valid described same other =>
      refine .inr ⟨hvalid valid, .inr ⟨_, described, ?_⟩⟩
      rw [Manifest.validate, if_neg (not_not_intro same), if_pos other]

/-- What is refused leaves everything as it was. -/
theorem load_of_refused {e : Error} (h : LoadRefused path space params b.name w.files e) :
    load b path space params w = (.error e, w) := by
  rcases h.check with hvalid | ⟨hvalid, hread | ⟨manifest, hread, hsuited⟩⟩
  · simp only [load, Action.bind_run, Action.ofExcept_run, hvalid]
  · simp only [load, Action.bind_run, Action.ofExcept_run, Action.reading_run, hvalid, hread]
  · simp only [load, Action.bind_run, Action.ofExcept_run, Action.reading_run, hvalid, hread,
      hsuited]

/-- Every load ends in one of these ways and leaves the files as they were. -/
theorem load_ends (b : Backend σ) (path : String) (space : Space) (params : QueryParams)
    (w : World) :
    ∃ calls r, load b path space params w = (r, w.after calls w.files) ∧
      LoadEnds b path space params w calls r := by
  have refusal : ∀ {e}, LoadRefused path space params b.name w.files e → ∃ calls r,
      load b path space params w = (r, w.after calls w.files) ∧
        LoadEnds b path space params w calls r := by
    intro e hrefused
    exact ⟨_, _, by rw [load_of_refused hrefused, w.after_nil], .refused hrefused⟩
  obtain ⟨hzero, hvalid⟩ | ⟨hnonzero, hvalid⟩ := validate_cases params
  · exact refusal (.invalid hzero)
  obtain ⟨e, hread, hrefused⟩ | ⟨manifest, hread⟩ :=
    read_cases path space b.name w.files hnonzero
  · exact refusal hrefused
  obtain ⟨e, hsuited, hrefused⟩ | hsuited := suited_cases space b.name hnonzero hread
  · exact refusal hrefused
  have haccepted : LoadAccepted path space params b.name w.files manifest :=
    ⟨hvalid, hread, hsuited⟩
  cases hmetric : b.createSpace space with
  | error e =>
      refine ⟨_, _, ?_, .noSpace haccepted hmetric⟩
      simp only [load, Action.bind_run, Action.ofExcept_run, Action.reading_run, Action.call_run,
        hvalid, hread, hsuited, hmetric]
      rfl
  | ok metric =>
  cases hempty : b.createIndex metric with
  | error e =>
      refine ⟨_, _, ?_, .noIndex haccepted hmetric hempty⟩
      simp only [load, Action.bind_run, Action.ofExcept_run, Action.reading_run, Action.call_run,
        hvalid, hread, hsuited, hmetric, hempty, World.noted_eq, World.after_after]
      rfl
  | ok empty =>
  rcases hopen : b.load metric path manifest w.files empty with ⟨e | _, index⟩
  · refine ⟨_, _, ?_, .notLoaded haccepted hmetric hempty hopen⟩
    simp only [load, Action.bind_run, Action.ofExcept_run, Action.reading_run, Action.call_run,
      Action.note_run, Action.get_run, hvalid, hread, hsuited, hmetric, hempty, World.noted_eq,
      World.after_after, World.files_after, hopen]
    rfl
  rcases hset : b.setParams params.toParams index with ⟨e | _, tuned⟩
  · refine ⟨_, _, ?_, .notTuned haccepted hmetric hempty hopen hset⟩
    simp only [load, Action.bind_run, Action.ofExcept_run, Action.reading_run, Action.call_run,
      Action.note_run, Action.get_run, hvalid, hread, hsuited, hmetric, hempty, World.noted_eq,
      World.after_after, World.files_after, hopen, hset]
    rfl
  · refine ⟨_, _, ?_, .finished haccepted hmetric hempty hopen hset⟩
    simp only [load, Action.bind_run, Action.ofExcept_run, Action.reading_run, Action.call_run,
      Action.note_run, Action.get_run, Action.pure_run, hvalid, hread, hsuited, hmetric, hempty,
      World.noted_eq, World.after_after, World.files_after, hopen, hset]
    rfl

section Ends

variable {calls : List Call} {r : Except Error (LoadedIndex σ)}

theorem LoadEnds.isPrefix (h : LoadEnds b path space params w calls r) :
    ∃ stored, calls <+: loadCalls space stored path params := by
  cases h with
  | refused => exact ⟨"", List.nil_prefix⟩
  | noSpace => exact ⟨"", List.take_prefix 1 (loadCalls space "" path params)⟩
  | noIndex => exact ⟨_, List.take_prefix _ _⟩
  | notLoaded => exact ⟨_, List.take_prefix _ _⟩
  | notTuned => exact ⟨_, List.prefix_rfl⟩
  | finished => exact ⟨_, List.prefix_rfl⟩

/-- A load that has called nothing was refused. -/
theorem LoadEnds.refused_of_nil (h : LoadEnds b path space params w calls r) (hnil : calls = []) :
    ∃ e, LoadRefused path space params b.name w.files e ∧ r = .error e := by
  cases h with
  | refused refused => exact ⟨_, refused, rfl⟩
  | noSpace => exact absurd hnil (List.cons_ne_nil _ _)
  | noIndex => exact absurd hnil (List.cons_ne_nil _ _)
  | notLoaded => exact absurd hnil (List.cons_ne_nil _ _)
  | notTuned => exact absurd hnil (List.cons_ne_nil _ _)
  | finished => exact absurd hnil (List.cons_ne_nil _ _)

end Ends

end Load

/-- A build and a load make their calls in order and end with the first step that fails, with the
error of that step. Neither calls anything if it is refused beforehand. A build writes a manifest
only for an index of the right size that has been saved; a load writes nothing. -/
theorem calls_in_order (b : Backend σ) (w : World) :
    (∀ ids vectors space params output, ∃ calls files r,
      build b ids vectors space params output w = (r, w.after calls files) ∧
      BuildEnds b ids vectors space params output w calls files r ∧
      (∃ stored, calls <+: buildCalls space stored params output) ∧
      (∀ e, BuildRefused ids vectors space params e ↔ calls = [] ∧ r = .error e) ∧
      (files = w.files ∨
        (∃ dataset metric index e, Made b ids vectors space params dataset metric index ∧
          b.size index = dataset.size ∧ r = .error e ∧
          files = (b.save index output w.files).2) ∨
        ∃ dataset metric index, r = .ok (manifestOf b space params dataset w.clock) ∧
          Built b ids vectors space params output w (w.after calls files) dataset metric index)) ∧
    ∀ path space params, ∃ calls r,
      load b path space params w = (r, w.after calls w.files) ∧
      LoadEnds b path space params w calls r ∧
      (∃ stored, calls <+: loadCalls space stored path params) ∧
      ∀ e, LoadRefused path space params b.name w.files e ↔ calls = [] ∧ r = .error e := by
  constructor
  · intro ids vectors space params output
    obtain ⟨calls, files, r, hrun, hends⟩ := build_ends b ids vectors space params output w
    refine ⟨calls, files, r, hrun, hends, hends.isPrefix, fun e => ⟨fun hrefused => ?_, ?_⟩,
      hends.written⟩
    · obtain ⟨rfl, hworld⟩ := Prod.mk.inj (hrun.symm.trans (build_of_refused hrefused w))
      exact ⟨World.eq_nil_of_after hworld, rfl⟩
    · rintro ⟨hnil, rfl⟩
      obtain ⟨e', hrefused, ⟨⟩⟩ := hends.refused_of_nil hnil
      exact hrefused
  · intro path space params
    obtain ⟨calls, r, hrun, hends⟩ := load_ends b path space params w
    refine ⟨calls, r, hrun, hends, hends.isPrefix, fun e => ⟨fun hrefused => ?_, ?_⟩⟩
    · obtain ⟨rfl, hworld⟩ := Prod.mk.inj (hrun.symm.trans (load_of_refused hrefused))
      exact ⟨World.eq_nil_of_after hworld, rfl⟩
    · rintro ⟨hnil, rfl⟩
      obtain ⟨e', hrefused, ⟨⟩⟩ := hends.refused_of_nil hnil
      exact hrefused

end Engine

end Vicinity
