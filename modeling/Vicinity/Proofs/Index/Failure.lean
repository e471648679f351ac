import Vicinity.Proofs.Index.Lifecycle

/-!
Calls that fail on an index. Most of what can be wrong with a call is found before the index is
changed, and then the index stays as it was. A layered index is changed too early in two places: it
takes in the number of links before it reads the parameters that come after it, and it takes in the
graph of a file before it checks it. The first shows in the graphs that are built and saved later;
the second leaves an index that holds what it refused.
-/

namespace Vicinity

variable {m : MetricSpace} {dataset : Dataset} {params : Params} {path : String} {fs : Files}
  {e : Error}

/-- Whether a layered index has taken in the number of links when it refuses build parameters. -/
structure Params.RefusedLate (params : Params) : Prop where
  known : params.checkKnown constructNames = .ok ()
  links : ∃ given, params.getPositive? ParamName.m = .ok given ∧
    2 ≤ given.getD GraphConfig.standardM
  refused : (∃ e, params.getPositive? ParamName.efConstruction = .error e) ∨
    ∃ e, params.getPositive? ParamName.threadCount = .error e

namespace LayeredIndex

variable {levels : Nat → Nat → Nat} {ix ix' : LayeredIndex} {g : Graph}

/-- Whether a file holds a graph for the space asked for, but one that does not pass the check. -/
structure Corrupt (m : MetricSpace) (path : String) (fs : Files) (g : Graph) (e : Error) :
    Prop where
  readable : readFile fs path GraphSnapshot.ofText? = .ok ⟨m.space.storedName, g⟩
  refused : g.checkIntegrity = .error e

/-- Building that fails changes nothing but the limits for graphs, and these only if they were taken
in before a parameter was refused. -/
theorem constructWith_failed (h : ix.constructWith levels m dataset params = (.error e, ix'))
    (hreturned : e.kind ≠ .overflow) :
    ix' = ix ∨ params.RefusedLate ∧ ∃ config, ix' = ix.withConfig config ∧
      config.efSearch = ix.graph.config.efSearch := by
  unfold constructWith at h
  cases hknown : params.checkKnown constructNames with
  | error =>
      simp only [hknown] at h
      exact .inl (Prod.mk.inj h).2.symm
  | ok =>
  cases hgiven : params.getPositive? ParamName.m with
  | error =>
      simp only [hknown, hgiven] at h
      exact .inl (Prod.mk.inj h).2.symm
  | ok given =>
  simp only [hknown, hgiven] at h
  split at h
  · exact .inl (Prod.mk.inj h).2.symm
  rename_i hfew
  have hlinks : ∃ given, params.getPositive? ParamName.m = .ok given ∧
      2 ≤ given.getD GraphConfig.standardM := ⟨given, hgiven, Nat.not_lt.mp hfew⟩
  split at h
  · cases h
    exact absurd rfl hreturned
  cases hbeam : params.getPositive? ParamName.efConstruction with
  | error e' =>
      simp only [hbeam] at h
      obtain ⟨-, rfl⟩ := Prod.mk.inj h
      exact .inr ⟨⟨hknown, hlinks, .inl ⟨e', hbeam⟩⟩, _, rfl, rfl⟩
  | ok beam =>
  cases hthreads : params.getPositive? ParamName.threadCount with
  | error e' =>
      simp only [hbeam, hthreads] at h
      obtain ⟨-, rfl⟩ := Prod.mk.inj h
      exact .inr ⟨⟨hknown, hlinks, .inr ⟨e', hthreads⟩⟩, _, rfl, rfl⟩
  | ok threads =>
  -- What is left to fail is memory, which is no answer to a call.
  simp only [hbeam, hthreads] at h
  split at h
  · split at h
    · cases h
    · cases h
      exact absurd rfl hreturned
  · cases h
    exact absurd rfl hreturned

/-- A graph that does not pass the check is taken in all the same. -/
theorem load_of_corrupt (h : Corrupt m path fs g e) (ix : LayeredIndex) :
    ix.load m path fs = (.error e, { ix with graph := g }) := by
  unfold load
  simp only [h.readable, h.refused, ne_eq, not_true, if_false]

theorem load_failed (h : ix.load m path fs = (.error e, ix')) :
    ix' = ix ∨ ∃ g, Corrupt m path fs g e ∧ ix' = { ix with graph := g } := by
  unfold load at h
  cases hread : readFile fs path GraphSnapshot.ofText? with
  | error e' =>
      simp only [hread] at h
      exact .inl (Prod.mk.inj h).2.symm
  | ok s =>
      simp only [hread] at h
      split at h
      · exact .inl (Prod.mk.inj h).2.symm
      · rename_i hspace
        obtain ⟨hchecked, rfl⟩ := Prod.mk.inj h
        rw [not_not] at hspace
        exact .inr ⟨s.graph, ⟨by rw [hread, ← hspace], hchecked⟩, rfl⟩

theorem setParams_failed (h : ix.setParams params = (.error e, ix')) : ix' = ix := by
  unfold setParams at h
  split at h
  · exact (Prod.mk.inj h).2.symm
  · split at h
    · exact (Prod.mk.inj h).2.symm
    · cases h
    · cases h

/-- Searching looks at the beam width of searching and at nothing else of the configuration. -/
theorem search_withConfig {config : GraphConfig}
    (hsame : config.efSearch = ix.graph.config.efSearch) (m : MetricSpace) (q : Query) :
    (ix.withConfig config).search m q = ix.search m q := by
  have hgraph : Graph.search m.dist { ix.graph with config } q.vector q.k =
      Graph.search m.dist ix.graph q.vector q.k := by
    unfold Graph.search
    rw [hsame]
    rfl
  unfold search withConfig
  rw [hgraph]

end LayeredIndex

section Checked

theorem ExactIndex.construct_failed {ix ix' : ExactIndex}
    (h : ix.construct dataset params = (.error e, ix')) : ix' = ix := by
  unfold construct at h
  split at h
  · exact (Prod.mk.inj h).2.symm
  · cases h

theorem ExactIndex.load_failed {ix ix' : ExactIndex} (h : ix.load m path fs = (.error e, ix')) :
    ix' = ix := by
  unfold load at h
  split at h
  · exact (Prod.mk.inj h).2.symm
  · split at h
    · exact (Prod.mk.inj h).2.symm
    · cases h

theorem DenseIndex.construct_failed {ix ix' : DenseIndex}
    (h : ix.construct dataset params = (.error e, ix')) : ix' = ix := by
  unfold construct at h
  split at h
  · exact (Prod.mk.inj h).2.symm
  · split at h
    · exact (Prod.mk.inj h).2.symm
    · cases h

theorem DenseIndex.load_failed {ix ix' : DenseIndex} (h : ix.load path fs = (.error e, ix')) :
    ix' = ix := by
  unfold load at h
  split at h
  · exact (Prod.mk.inj h).2.symm
  · split at h
    · exact (Prod.mk.inj h).2.symm
    · split at h
      · exact (Prod.mk.inj h).2.symm
      · cases h

end Checked

namespace BuiltinIndex

/-- A call that is there to change an index. -/
inductive Call where
  | construct (m : MetricSpace) (dataset : Dataset) (params : Params)
  | load (m : MetricSpace) (path : String) (fs : Files)
  | setParams (params : Params)

def perform : Call → BuiltinIndex → Except Error Unit × BuiltinIndex
  | .construct m dataset params, ix => ix.construct m dataset params
  | .load m path fs, ix => ix.load m path fs
  | .setParams params, ix => ix.setParams params

/-- Whether an index has begun to change when it refuses a call. -/
def FailsLate : Call → BuiltinIndex → Prop
  | .construct _ _ params, layered _ => params.RefusedLate
  | .load m path fs, layered _ => ∃ g e, LayeredIndex.Corrupt m path fs g e
  | _, _ => False

variable {call : Call} {ix ix' : BuiltinIndex}

/-- What a call that fails can come to. -/
inductive Failed : Call → Error → BuiltinIndex → BuiltinIndex → Prop
  | unchanged {call : Call} {e : Error} {ix ix' : BuiltinIndex} (same : ix' = ix) :
      Failed call e ix ix'
  | limited {m : MetricSpace} {dataset : Dataset} {params : Params} {e : Error}
      {ix : LayeredIndex} {config : GraphConfig} (late : params.RefusedLate)
      (same : config.efSearch = ix.graph.config.efSearch) :
      Failed (.construct m dataset params) e (layered ix) (layered (ix.withConfig config))
  | replaced {m : MetricSpace} {path : String} {fs : Files} {g : Graph} {e : Error}
      {ix : LayeredIndex} (corrupt : LayeredIndex.Corrupt m path fs g e) :
      Failed (.load m path fs) e (layered ix) (layered { ix with graph := g })

/-- An operation on any kind of index fails as one on its own kind does. -/
theorem map_eq_error {α : Type} {f : α → BuiltinIndex} {r : Except Error Unit × α}
    (h : r.map id f = (.error e, ix')) : ∃ a, r = (.error e, a) ∧ f a = ix' := by
  obtain ⟨outcome, a⟩ := r
  obtain ⟨houtcome, ha⟩ := Prod.mk.inj h
  exact ⟨a, Prod.ext houtcome rfl, ha⟩

theorem construct_failed (h : ix.construct m dataset params = (.error e, ix'))
    (hreturned : e.kind ≠ .overflow) : Failed (.construct m dataset params) e ix ix' := by
  cases ix with
  | layered ix =>
      obtain ⟨ix₁, hconstruct, rfl⟩ := map_eq_error h
      rcases LayeredIndex.constructWith_failed hconstruct hreturned with rfl | ⟨hlate, config, rfl,
        hsame⟩
      · exact .unchanged rfl
      · exact .limited hlate hsame
  | exact ix =>
      obtain ⟨ix₁, hconstruct, rfl⟩ := map_eq_error h
      exact .unchanged (congrArg exact (ExactIndex.construct_failed hconstruct))
  | dense ix =>
      obtain ⟨ix₁, hconstruct, rfl⟩ := map_eq_error h
      exact .unchanged (congrArg dense (DenseIndex.construct_failed hconstruct))

theorem load_failed (h : ix.load m path fs = (.error e, ix')) :
    Failed (.load m path fs) e ix ix' := by
  cases ix with
  | layered ix =>
      obtain ⟨ix₁, hload, rfl⟩ := map_eq_error h
      rcases LayeredIndex.load_failed hload with rfl | ⟨g, hcorrupt, rfl⟩
      · exact .unchanged rfl
      · exact .replaced hcorrupt
  | exact ix =>
      obtain ⟨ix₁, hload, rfl⟩ := map_eq_error h
      exact .unchanged (congrArg exact (ExactIndex.load_failed hload))
  | dense ix =>
      obtain ⟨ix₁, hload, rfl⟩ := map_eq_error h
      exact .unchanged (congrArg dense (DenseIndex.load_failed hload))

theorem setParams_failed (h : ix.setParams params = (.error e, ix')) : ix' = ix := by
  cases ix with
  | layered ix =>
      obtain ⟨ix₁, hset, rfl⟩ := map_eq_error h
      exact congrArg layered (LayeredIndex.setParams_failed hset)
  | exact ix => exact (Prod.mk.inj h).2.symm
  | dense ix => exact (Prod.mk.inj h).2.symm

theorem perform_failed (h : perform call ix = (.error e, ix')) (hreturned : e.kind ≠ .overflow) :
    Failed call e ix ix' := by
  cases call with
  | construct m dataset params => exact construct_failed h hreturned
  | load m path fs => exact load_failed h
  | setParams params => exact .unchanged (setParams_failed h)

theorem Failed.eq_self (h : Failed call e ix ix') (hearly : ¬ FailsLate call ix) : ix' = ix := by
  cases h with
  | unchanged same => exact same
  | limited late same => exact absurd late hearly
  | replaced corrupt => exact absurd ⟨_, _, corrupt⟩ hearly

theorem Failed.built (h : Failed (.construct m dataset params) e ix ix') :
    ix'.size = ix.size ∧ ∀ m q, ix'.search m q = ix.search m q := by
  cases h with
  | unchanged same =>
      rw [same]
      exact ⟨rfl, fun _ _ => rfl⟩
  | limited late same => exact ⟨rfl, fun m q => LayeredIndex.search_withConfig same m q⟩

section Run

/-- The index after a sequence of calls. -/
def run (calls : List Call) (ix : BuiltinIndex) : BuiltinIndex :=
  calls.foldl (fun ix call => (perform call ix).2) ix

theorem run_cons (call : Call) (rest : List Call) (ix : BuiltinIndex) :
    run (call :: rest) ix = run rest (perform call ix).2 :=
  rfl

/-- The calls of a sequence that succeed, each where its turn is. -/
def succeeding : List Call → BuiltinIndex → List Call
  | [], _ => []
  | call :: rest, ix =>
    match perform call ix with
    | (.ok (), ix') => call :: succeeding rest ix'
    | (.error _, ix') => succeeding rest ix'

/-- Whether each call of a sequence that fails is answered, and fails before the index is
changed. -/
def FailsEarly : List Call → BuiltinIndex → Prop
  | [], _ => True
  | call :: rest, ix =>
    (∀ e ix', perform call ix = (.error e, ix') → e.kind ≠ .overflow ∧ ¬ FailsLate call ix) ∧
      FailsEarly rest (perform call ix).2

/-- Where calls fail early, those that fail might as well not have been made. -/
theorem run_succeeding {calls : List Call} (h : FailsEarly calls ix) :
    run (succeeding calls ix) ix = run calls ix := by
  induction calls generalizing ix with
  | nil => rfl
  | cons call rest ih =>
      obtain ⟨hcall, hrest⟩ := h
      rw [succeeding, run_cons]
      rcases hperform : perform call ix with ⟨e | _, ix'⟩
      · obtain ⟨hreturned, hearly⟩ := hcall e ix' hperform
        have hsame := (perform_failed hperform hreturned).eq_self hearly
        rw [hperform, hsame] at hrest
        rw [hsame]
        exact ih hrest
      · rw [hperform] at hrest
        dsimp only
        rw [run_cons, hperform]
        exact ih hrest

end Run

/-- A call that fails, other than for want of memory, leaves every index as it was, except that a
layered index has taken in the number of links when it refuses a parameter after it, and a graph
when it refuses the graph. In the first case it answers every search as before; in the second one it
holds the graph it has refused. -/
theorem failed_keeps (h : perform call ix = (.error e, ix')) (hreturned : e.kind ≠ .overflow) :
    (¬ FailsLate call ix → ix' = ix) ∧
      (∀ m dataset params, call = .construct m dataset params →
        ix'.size = ix.size ∧ (∀ m q, ix'.search m q = ix.search m q) ∧
        (ix' = ix ∨ ∃ held config, ix = layered held ∧ ix' = layered (held.withConfig config) ∧
          config.efSearch = held.graph.config.efSearch)) ∧
      ∀ m path fs, call = .load m path fs → FailsLate call ix →
        ∃ held g, ix = layered held ∧ ix' = layered { held with graph := g } ∧
          LayeredIndex.Corrupt m path fs g e := by
  have hfailed := perform_failed h hreturned
  refine ⟨hfailed.eq_self, ?_, ?_⟩
  · rintro m dataset params rfl
    obtain ⟨hsize, hsearch⟩ := hfailed.built
    refine ⟨hsize, hsearch, ?_⟩
    cases hfailed with
    | unchanged same => exact .inl same
    | limited late same => exact .inr ⟨_, _, rfl, rfl, same⟩
  · rintro m path fs rfl hlate
    cases ix with
    | layered held =>
        obtain ⟨g, e', hcorrupt⟩ := hlate
        have hload : perform (.load m path fs) (layered held) =
            (.error e', layered { held with graph := g }) :=
          congrArg (Prod.map id layered) (LayeredIndex.load_of_corrupt hcorrupt held)
        cases hload.symm.trans h
        exact ⟨held, g, rfl, rfl, hcorrupt⟩
    | exact ix => exact hlate.elim
    | dense ix => exact hlate.elim

section Stray

/-- One node, and no entry that leads to it. -/
def stray : Graph := ⟨.standard, #[⟨7, .dense [0], [[]]⟩], none, 0⟩

theorem stray_corrupt :
    ∃ fs, LayeredIndex.Corrupt (.standard .l2) "a.idx" fs stray (.index .noEntry) := by
  have hreread : stray.reread = some stray := by
    have hzero : ∀ x ∈ [(0 : Single)], x.Restored := by decide +kernel
    have hfits : stray.InWords := by decide
    have hnode : (⟨7, .dense [0], [[]]⟩ : Node).InWords := by decide
    rw [Graph.reread, if_pos hfits]
    simp [stray, Node.reread, Encoded.reread_dense hzero, if_pos hnode]
  let fs := Files.put ⟨[], []⟩ ["a.idx"]
    (.text (GraphSnapshot.render ⟨Space.l2.storedName, stray⟩))
  have hopen : fs.open? "a.idx" = .ok (some (GraphSnapshot.render ⟨Space.l2.storedName, stray⟩)) :=
    Files.open?_of_write (Files.write_of_writable Engine.writable_first _)
  refine ⟨fs, ?_, rfl⟩
  rw [readFile_of_text hopen, GraphSnapshot.ofText?_render, hreread]
  rfl

theorem failed_keeps_stray : ∃ fs ix',
    perform (.load (.standard .l2) "a.idx" fs) (layered (.fresh (.standard .l2))) =
      (.error (.index .noEntry), ix') ∧
    ∃ held g, layered (.fresh (.standard .l2)) = layered held ∧
      ix' = layered { held with graph := g } ∧
      LayeredIndex.Corrupt (.standard .l2) "a.idx" fs g (.index .noEntry) := by
  obtain ⟨fs, hcorrupt⟩ := stray_corrupt
  have hload : perform (.load (.standard .l2) "a.idx" fs) (layered (.fresh (.standard .l2))) =
      (.error (.index .noEntry), layered { space := .l2, graph := stray }) :=
    congrArg (Prod.map id layered) (LayeredIndex.load_of_corrupt hcorrupt _)
  obtain ⟨-, -, hreplaced⟩ := failed_keeps hload (by decide)
  exact ⟨fs, _, hload, hreplaced _ _ _ rfl ⟨stray, _, hcorrupt⟩⟩

/-- An index over two vectors refuses a file, and holds what stood in the file all the same: one
node, which no search can find. -/
theorem load_replaces_stray : ∃ (ix : LayeredIndex) (fs : Files),
    (LayeredIndex.fresh (.standard .l2)).construct (.standard .l2)
      ⟨.l2, 1, [⟨1, .dense [0]⟩, ⟨2, .dense [1]⟩]⟩ BuildParams.unset.toParams = (.ok (), ix) ∧
    (layered ix).size = 2 ∧
    perform (.load (.standard .l2) "a.idx" fs) (layered ix) =
      (.error (.index .noEntry), layered { ix with graph := stray }) ∧
    (layered { ix with graph := stray }).size = 1 ∧
    ∀ q, (layered { ix with graph := stray }).search (.standard .l2) q = .ok (.empty q.k) := by
  obtain ⟨fs, hcorrupt⟩ := stray_corrupt
  let pair : Dataset := ⟨.l2, 1, [⟨1, .dense [0]⟩, ⟨2, .dense [1]⟩]⟩
  obtain ⟨g, hbuild, -, -, hentries⟩ := Graph.build_wellFormed Space.l2.distance
    (Level.ofNode GraphConfig.standardM) ((LayeredIndex.fresh (.standard .l2)).buildConfig
      GraphConfig.standardM GraphConfig.standardEfConstruction) pair.entries
  have hsize : g.size = 2 := by
    rw [Graph.size, ← Graph.entriesOf_length, hentries]
    rfl
  exact ⟨_, fs, LayeredIndex.constructWith_of_accepts (LayeredIndex.accepts_unset pair) hbuild,
    hsize, congrArg (Prod.map id layered) (LayeredIndex.load_of_corrupt hcorrupt _), rfl,
    fun _ => rfl⟩

end Stray

end BuiltinIndex

end Vicinity
