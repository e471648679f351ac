import Vicinity.Settings
import Vicinity.Proofs.Params

/-!
Settings on their way to a backend. They are told to a host in two maps, the host reads the maps
into typed parameters, and a backend is given these as `name=value` pairs. The host accepts exactly
the settings that are valid, and what is set arrives at the backend as it was set.
-/

namespace Vicinity

open Json (Value)

namespace Host

/-- What is read for a count that a map may hold: no count but zero is refused. -/
def readCount (key : String) : Option Nat → Except Error (Option Nat)
  | some 0 => .error (.badArgument (.notPositiveValue key (Value.nat 0).compact))
  | value => .ok value

theorem readCount_eq_ok_iff {key : String} {value given : Option Nat} :
    readCount key value = .ok given ↔ given = value ∧ value ≠ some 0 := by
  unfold readCount
  split
  · simp
  · rename_i hpositive
    exact ⟨fun h => ⟨(Except.ok.inj h).symm, hpositive⟩, fun h => by rw [h.1]⟩

variable {members : List (String × Value)}

theorem firstPositive_of_absent {keys : List String}
    (h : ∀ key ∈ keys, members.lookup key = none) : firstPositive members keys = .ok none := by
  induction keys with
  | nil => rfl
  | cons key rest ih =>
      rw [firstPositive, h key List.mem_cons_self]
      exact ih fun other hother => h other (List.mem_cons_of_mem key hother)

/-- A count is read under the first of its spellings, where the map holds it under no other. -/
theorem firstPositive_eq_readCount {key : String} {others : List String} {value : Option Nat}
    (hvalue : members.lookup key = value.map Value.nat)
    (hothers : ∀ other ∈ others, members.lookup other = none) :
    firstPositive members (key :: others) = readCount key value := by
  rw [firstPositive, hvalue]
  cases value with
  | none => exact firstPositive_of_absent hothers
  | some n =>
      cases n with
      | zero => rfl
      | succ n => rfl

end Host

namespace Settings

open Host (BuildRequest LoadRequest readCount readCount_eq_ok_iff firstPositive_eq_readCount)

/-- The parameters of building that are set. -/
def buildParams (s : Settings) : BuildParams := ⟨s.efConstruction, s.m, s.threadCount⟩

/-- The parameters of searching that are set. -/
def queryParams (s : Settings) : QueryParams := ⟨s.efSearch⟩

/-- Whether every count that is set is the number of a machine word. -/
def InWords (s : Settings) : Prop := ∀ c ∈ s.counts, ∀ n ∈ c.2, n ≤ Number.maxWord

instance (s : Settings) : Decidable s.InWords := inferInstanceAs (Decidable (∀ _ ∈ _, _))

variable (s : Settings)

/-- A host reads a build map as what is set. -/
theorem ofJson_buildMap : BuildRequest.ofJson s.buildMap = (do
    let space ← Space.ofName s.spaceType
    let efConstruction ← readCount ParamName.efConstruction s.efConstruction
    let m ← readCount ParamName.m s.m
    let threadCount ← readCount ParamName.threadCount s.threadCount
    return ⟨space, ⟨efConstruction, m, threadCount⟩⟩) := by
  obtain ⟨logLevel, backend, spaceType, efConstruction, m, threadCount, efSearch⟩ := s
  let inner := BuildParams.optionalMember ParamName.m m ++
    BuildParams.optionalMember ParamName.efConstruction efConstruction
  let members := BuildParams.optionalMember ParamName.threadCount threadCount ++
    [(Host.parametersKey, .object inner), (Host.spaceTypeKey, .string spaceType)]
  have hspace : Host.spaceOf members = Space.ofName spaceType := by
    cases threadCount <;> rfl
  have hinner : members.lookup Host.parametersKey = some (.object inner) := by
    cases threadCount <;> rfl
  have hbeam : Host.firstPositive inner Host.efConstructionKeys =
      readCount ParamName.efConstruction efConstruction := by
    refine firstPositive_eq_readCount ?_ (List.forall_mem_singleton.mpr ?_) <;>
      cases m <;> cases efConstruction <;> rfl
  have hlinks : Host.firstPositive inner Host.linksKeys = readCount ParamName.m m := by
    refine firstPositive_eq_readCount ?_ (List.forall_mem_singleton.mpr ?_) <;>
      cases m <;> cases efConstruction <;> rfl
  have hthreads : Host.firstPositive members Host.threadCountKeys =
      readCount ParamName.threadCount threadCount := by
    refine firstPositive_eq_readCount ?_ (List.forall_mem_nil _)
    cases threadCount <;> rfl
  have hgraph : Host.graphParams members = (do
      let efConstruction ← readCount ParamName.efConstruction efConstruction
      let m ← readCount ParamName.m m
      return (efConstruction, m)) := by
    rw [Host.graphParams, hinner, ← hbeam, ← hlinks]
    rfl
  have hread : BuildRequest.ofJson (.object members) = (do
      let space ← Host.spaceOf members
      let graph ← Host.graphParams members
      let threadCount ← Host.firstPositive members Host.threadCountKeys
      return ⟨space, ⟨graph.1, graph.2, threadCount⟩⟩) := rfl
  rw [show Settings.buildMap _ = .object members from rfl, hread, hspace, hgraph, hthreads]
  simp only [bind_assoc, pure_bind]

/-- A host reads a load map as what is set. -/
theorem ofJson_loadMap : LoadRequest.ofJson s.loadMap = (do
    let space ← Space.ofName s.spaceType
    let efSearch ← readCount ParamName.efSearch s.efSearch
    return ⟨space, ⟨efSearch⟩⟩) := by
  obtain ⟨logLevel, backend, spaceType, efConstruction, m, threadCount, efSearch⟩ := s
  let members := BuildParams.optionalMember ParamName.efSearch efSearch ++
    [(Host.spaceTypeKey, .string spaceType)]
  have hspace : Host.spaceOf members = Space.ofName spaceType := by
    cases efSearch <;> rfl
  have hbeam : Host.firstPositive members Host.efSearchKeys =
      readCount ParamName.efSearch efSearch := by
    refine firstPositive_eq_readCount ?_ (List.forall_mem_singleton.mpr ?_) <;>
      cases efSearch <;> rfl
  have hread : LoadRequest.ofJson (.object members) = (do
      let space ← Host.spaceOf members
      let efSearch ← Host.firstPositive members Host.efSearchKeys
      return ⟨space, ⟨efSearch⟩⟩) := rfl
  rw [show Settings.loadMap _ = .object members from rfl, hread, hspace, hbeam]

variable {s}

theorem ofJson_buildMap_eq_ok_iff {request : BuildRequest} :
    BuildRequest.ofJson s.buildMap = .ok request ↔
      Space.ofName s.spaceType = .ok request.space ∧ request.params = s.buildParams ∧
        s.efConstruction ≠ some 0 ∧ s.m ≠ some 0 ∧ s.threadCount ≠ some 0 := by
  obtain ⟨space, params⟩ := request
  simp only [ofJson_buildMap, bind_eq_ok_iff, readCount_eq_ok_iff, and_assoc, exists_eq_left,
    pure, Except.pure, Except.ok.injEq, BuildRequest.mk.injEq]
  constructor
  · rintro ⟨_, hspace, hbeam, hlinks, hthreads, rfl, rfl⟩
    exact ⟨hspace, rfl, hbeam, hlinks, hthreads⟩
  · rintro ⟨hspace, rfl, hbeam, hlinks, hthreads⟩
    exact ⟨space, hspace, hbeam, hlinks, hthreads, rfl, rfl⟩

theorem ofJson_loadMap_eq_ok_iff {request : LoadRequest} :
    LoadRequest.ofJson s.loadMap = .ok request ↔
      Space.ofName s.spaceType = .ok request.space ∧ request.params = s.queryParams ∧
        s.efSearch ≠ some 0 := by
  obtain ⟨space, params⟩ := request
  simp only [ofJson_loadMap, bind_eq_ok_iff, readCount_eq_ok_iff, and_assoc, exists_eq_left,
    pure, Except.pure, Except.ok.injEq, LoadRequest.mk.injEq]
  constructor
  · rintro ⟨_, hspace, hbeam, rfl, rfl⟩
    exact ⟨hspace, rfl, hbeam⟩
  · rintro ⟨hspace, rfl, hbeam⟩
    exact ⟨space, hspace, hbeam, rfl, rfl⟩

theorem validate_eq_ok_iff : s.validate = .ok () ↔
    (∃ space, Space.ofName s.spaceType = .ok space) ∧ ∀ c ∈ s.counts, c.2 ≠ some 0 := by
  unfold validate
  cases Space.ofName s.spaceType with
  | error e => simp
  | ok space =>
      cases hzero : s.counts.find? fun c => c.2 == some 0 with
      | some c =>
          have hc : c.2 = some 0 := by simpa using List.find?_some hzero
          exact iff_of_false (fun h => by cases h)
            fun h => h.2 c (List.mem_of_find?_eq_some hzero) hc
      | none =>
          have hpositive : ∀ c ∈ s.counts, c.2 ≠ some 0 := by
            simpa using List.find?_eq_none.mp hzero
          exact iff_of_true rfl ⟨⟨space, rfl⟩, hpositive⟩

theorem forall_counts_iff (s : Settings) (P : Option Nat → Prop) : (∀ c ∈ s.counts, P c.2) ↔
    P s.efConstruction ∧ P s.m ∧ P s.threadCount ∧ P s.efSearch := by
  simp [counts]

/-- What is set has reached a backend for a space: a host reads it from the two maps, it passes
the checks there and those of the backend, and the backend finds each parameter as it was set, or
does not find it where it was not. -/
structure Reaches (s : Settings) (space : Space) : Prop where
  named : Space.ofName s.spaceType = .ok space
  build : BuildRequest.ofJson s.buildMap = .ok ⟨space, s.buildParams⟩
  load : LoadRequest.ofJson s.loadMap = .ok ⟨space, s.queryParams⟩
  buildValid : s.buildParams.validate = .ok ()
  queryValid : s.queryParams.validate = .ok ()
  buildKnown : s.buildParams.toParams.checkKnown constructNames = .ok ()
  queryKnown : s.queryParams.toParams.checkKnown searchNames = .ok ()
  efConstruction :
    s.buildParams.toParams.getPositive? ParamName.efConstruction = .ok s.efConstruction
  m : s.buildParams.toParams.getPositive? ParamName.m = .ok s.m
  threadCount : s.buildParams.toParams.getPositive? ParamName.threadCount = .ok s.threadCount
  efSearch : s.queryParams.toParams.getPositive? ParamName.efSearch = .ok s.efSearch

theorem reaches_of_valid (hwords : s.InWords) (h : s.validate = .ok ()) :
    ∃ space, s.Reaches space := by
  obtain ⟨⟨space, hspace⟩, hpositive⟩ := validate_eq_ok_iff.mp h
  obtain ⟨hbeam, hlinks, hthreads, hwidth⟩ := (s.forall_counts_iff (· ≠ some 0)).mp hpositive
  obtain ⟨hbeamWord, hlinksWord, hthreadsWord, hwidthWord⟩ :=
    (s.forall_counts_iff fun value => ∀ n ∈ value, n ≤ Number.maxWord).mp hwords
  have read {name : String} {value : Option Nat} (hvalue : value ≠ some 0)
      (hword : ∀ n ∈ value, n ≤ Number.maxWord) : passedOn name value = .ok value :=
    passedOn_of_valid (requirePositive_eq_ok_iff.mpr hvalue) hword
  exact ⟨space,
    { named := hspace
      build := ofJson_buildMap_eq_ok_iff.mpr ⟨hspace, rfl, hbeam, hlinks, hthreads⟩
      load := ofJson_loadMap_eq_ok_iff.mpr ⟨hspace, rfl, hwidth⟩
      buildValid := BuildParams.validate_eq_ok_iff.mpr ⟨hbeam, hlinks, hthreads⟩
      queryValid := requirePositive_eq_ok_iff.mpr hwidth
      buildKnown := s.buildParams.checkKnown_toParams
      queryKnown := s.queryParams.checkKnown_toParams
      efConstruction := (s.buildParams.getPositive?_efConstruction).trans (read hbeam hbeamWord)
      m := (s.buildParams.getPositive?_m).trans (read hlinks hlinksWord)
      threadCount := (s.buildParams.getPositive?_threadCount).trans (read hthreads hthreadsWord)
      efSearch := (s.queryParams.getPositive?_efSearch).trans (read hwidth hwidthWord) }⟩

theorem valid_of_read {build : BuildRequest} {load : LoadRequest}
    (hbuild : BuildRequest.ofJson s.buildMap = .ok build)
    (hload : LoadRequest.ofJson s.loadMap = .ok load) : s.validate = .ok () := by
  obtain ⟨hspace, -, hbeam, hlinks, hthreads⟩ := ofJson_buildMap_eq_ok_iff.mp hbuild
  obtain ⟨-, -, hwidth⟩ := ofJson_loadMap_eq_ok_iff.mp hload
  exact validate_eq_ok_iff.mpr
    ⟨⟨_, hspace⟩, (s.forall_counts_iff (· ≠ some 0)).mpr ⟨hbeam, hlinks, hthreads, hwidth⟩⟩

/-- Settings are valid exactly when a host reads both of their maps, and what is set in valid
settings reaches the backend as it is. -/
theorem validate_iff_read_and_reaches (s : Settings) (hwords : s.InWords) :
    (s.validate = .ok () ↔
      (∃ build, BuildRequest.ofJson s.buildMap = .ok build) ∧
        ∃ load, LoadRequest.ofJson s.loadMap = .ok load) ∧
    (s.validate = .ok () → ∃ space, s.Reaches space) := by
  refine ⟨⟨fun h => ?_, fun h => ?_⟩, reaches_of_valid hwords⟩
  · obtain ⟨space, hreaches⟩ := reaches_of_valid hwords h
    exact ⟨⟨_, hreaches.build⟩, ⟨_, hreaches.load⟩⟩
  · obtain ⟨⟨build, hbuild⟩, ⟨load, hload⟩⟩ := h
    exact valid_of_read hbuild hload

/-- Blanks around the space and capitals are accepted, and the largest word is passed on. -/
theorem reaches_of_largest_word :
    let s : Settings :=
      { standard with
        spaceType := " L2\t", efConstruction := some Number.maxWord, efSearch := some 1 }
    s.InWords ∧ s.validate = .ok () ∧ ∃ space, s.Reaches space := by
  intro s
  have hwords : s.InWords := by decide
  have hvalid : s.validate = .ok () := by decide +kernel
  exact ⟨hwords, hvalid, (validate_iff_read_and_reaches s hwords).2 hvalid⟩

end Settings

end Vicinity
