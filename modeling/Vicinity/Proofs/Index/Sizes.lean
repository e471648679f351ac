import Vicinity.Proofs.Graph.Sizes
import Vicinity.Proofs.Index.Layered
import Vicinity.Proofs.Params
import Vicinity.Proofs.Stored

/-!
Building an index with tuning values of any size, on the machine with a largest number and a largest
block of memory. No beam width and no number of threads is too much for it. The number of links is:
twice as many have to fit in a word, and from the second vector on in a list.
-/

namespace Vicinity.LayeredIndex

/-- Builds the graph over a dataset as `constructWith` does, on the machine. -/
def constructWith? (levels : Nat → Nat → Nat) (m : MetricSpace) (dataset : Dataset)
    (params : Params) (ix : LayeredIndex) : Option (Except Error Unit × LayeredIndex) :=
  match params.checkKnown constructNames with
  | .error e => some (.error e, ix)
  | .ok () =>
    match params.getPositive? ParamName.m with
    | .error e => some (.error e, ix)
    | .ok given =>
      let links := given.getD GraphConfig.standardM
      if links < 2 then some (.error (.index (.tooFewLinks links)), ix)
      else do
        let bottomLinks ← Checked.size (links * 2)
        let ix := ix.withConfig { ix.graph.config with m := links, bottomLinks }
        match params.getPositive? ParamName.efConstruction with
        | .error e => return (.error e, ix)
        | .ok given =>
          let ef := given.getD GraphConfig.standardEfConstruction
          let ix := ix.withConfig { ix.graph.config with efConstruction := ef }
          match params.getPositive? ParamName.threadCount with
          | .error e => return (.error e, ix)
          | .ok _ =>
            let graph ← Graph.build? m.dist (levels links) ix.graph.config dataset.entries
            return (.ok (), { ix with graph })

/-- Whether the machine has room for a graph: a word for the number of links on level zero, a block
for the nodes, and one for a list of links if there is more than one node. -/
structure SizesFit (links count : Nat) : Prop where
  word : links * 2 ≤ Number.maxWord
  nodes : Graph.NodesFit count
  lists : count < 2 ∨ Graph.linkBytes * (links * 2) ≤ maxBlock

variable {levels : Nat → Nat → Nat} {m : MetricSpace} {dataset : Dataset} {p : BuildParams}
  {ix : LayeredIndex}

/-- Valid values that fit in words are read as they were given. -/
theorem read_toParams (hvalid : p.validate = .ok ()) (hwords : p.InWords) :
    p.toParams.getPositive? ParamName.m = .ok p.m ∧
      p.toParams.getPositive? ParamName.efConstruction = .ok p.efConstruction ∧
      p.toParams.getPositive? ParamName.threadCount = .ok p.threadCount := by
  obtain ⟨hbeam, hm, hthreads⟩ := BuildParams.validate_eq_ok_iff.mp hvalid
  obtain ⟨hbeamWord, hmWord, hthreadsWord⟩ := hwords
  rw [BuildParams.getPositive?_m, BuildParams.getPositive?_efConstruction,
    BuildParams.getPositive?_threadCount]
  exact ⟨passedOn_of_valid (requirePositive_eq_ok_iff.mpr hm) hmWord,
    passedOn_of_valid (requirePositive_eq_ok_iff.mpr hbeam) hbeamWord,
    passedOn_of_valid (requirePositive_eq_ok_iff.mpr hthreads) hthreadsWord⟩

/-- What the machine does with valid values. -/
theorem constructWith?_of_valid (hvalid : p.validate = .ok ()) (hwords : p.InWords) :
    ix.constructWith? levels m dataset p.toParams =
      if p.links < 2 then some (.error (.index (.tooFewLinks p.links)), ix)
      else do
        let _ ← Checked.size (p.links * 2)
        let graph ← Graph.build? m.dist (levels p.links) (ix.buildConfig p.links p.beam)
          dataset.entries
        return (.ok (), { ix with graph }) := by
  obtain ⟨hm, hbeam, hthreads⟩ := read_toParams hvalid hwords
  simp only [constructWith?, p.checkKnown_toParams, hm, hbeam, hthreads]
  change (if p.links < 2 then _ else _) = _
  by_cases hfew : p.links < 2
  · rw [if_pos hfew, if_pos hfew]
    rfl
  · rw [if_neg hfew, if_neg hfew]
    change (Checked.size (p.links * 2) >>= _) = _
    by_cases hword : p.links * 2 ≤ Number.maxWord
    · rw [Checked.size_eq hword]
      rfl
    · rw [Checked.size_eq_none (Nat.not_le.mp hword)]
      rfl

theorem listsFit_buildConfig {links : Nat} (ix : LayeredIndex) (ef : Nat)
    (h : Graph.linkBytes * (links * 2) ≤ maxBlock) : Graph.ListsFit (ix.buildConfig links ef) := by
  intro level
  rw [buildConfig_maxLinks]
  unfold Graph.linkBytes at h ⊢
  split <;> omega

theorem accepts_of_sizesFit (hvalid : p.validate = .ok ()) (hwords : p.InWords)
    (henough : 2 ≤ p.links) (hfit : SizesFit p.links dataset.size) :
    Accepts dataset p.toParams p.links p.beam := by
  obtain ⟨hm, hbeam, hthreads⟩ := read_toParams hvalid hwords
  refine
    { known := p.checkKnown_toParams, given := ⟨p.m, hm, rfl⟩, enough := henough
      inWord := hfit.word, beam := ⟨p.efConstruction, hbeam, rfl⟩
      threads := ⟨p.threadCount, hthreads⟩, inMemory := ?_ }
  rw [linksFit, Bool.or_eq_true, decide_eq_true_eq, decide_eq_true_eq]
  exact hfit.lists

/-- With room for the graph the machine builds it. -/
theorem constructWith?_of_sizesFit (m : MetricSpace) (ix : LayeredIndex)
    (hvalid : p.validate = .ok ()) (hwords : p.InWords)
    (hlevels : ∀ i, levels p.links i ≤ Level.maxLevel) (henough : 2 ≤ p.links)
    (hfit : SizesFit p.links dataset.size) :
    ix.constructWith? levels m dataset p.toParams =
      some (ix.constructWith levels m dataset p.toParams) := by
  have haccepts := accepts_of_sizesFit hvalid hwords henough hfit
  obtain ⟨g, hbuild, -⟩ := Graph.build_wellFormed m.dist (levels p.links)
    (ix.buildConfig p.links p.beam) dataset.entries
  have hmachine : Graph.build? m.dist (levels p.links) (ix.buildConfig p.links p.beam)
      dataset.entries = some g := by
    rw [Graph.build?_eq m.dist hlevels hfit.nodes
      (hfit.lists.imp_right (listsFit_buildConfig ix p.beam)), hbuild]
  rw [constructWith?_of_valid hvalid hwords, if_neg (Nat.not_lt.mpr henough),
    Checked.size_eq hfit.word, hmachine, constructWith_of_accepts haccepts hbuild]
  rfl

/-- Without room for the graph the machine stops. -/
theorem constructWith?_of_not_sizesFit (hvalid : p.validate = .ok ()) (hwords : p.InWords)
    (henough : 2 ≤ p.links) (hfit : ¬ SizesFit p.links dataset.size) :
    ix.constructWith? levels m dataset p.toParams = none := by
  rw [constructWith?_of_valid hvalid hwords, if_neg (Nat.not_lt.mpr henough)]
  by_cases hword : p.links * 2 ≤ Number.maxWord
  · have hbuild : Graph.build? m.dist (levels p.links) (ix.buildConfig p.links p.beam)
        dataset.entries = none := by
      by_cases hnodes : Graph.NodesFit dataset.size
      · have hlists : ¬ (dataset.size < 2 ∨ Graph.linkBytes * (p.links * 2) ≤ maxBlock) :=
          fun hlists => hfit ⟨hword, hnodes, hlists⟩
        rw [not_or, Nat.not_lt, Nat.not_le] at hlists
        exact Graph.build?_eq_none hlists.2 hlists.1
      · exact Graph.build?_eq_none_of_nodes hnodes
    rw [Checked.size_eq hword, hbuild]
    rfl
  · rw [Checked.size_eq_none (Nat.not_le.mp hword)]
    rfl

/-- Builds the graph over a dataset on the machine, with levels from the fixed stream. -/
def construct? (m : MetricSpace) (dataset : Dataset) (params : Params) (ix : LayeredIndex) :
    Option (Except Error Unit × LayeredIndex) :=
  ix.constructWith? Level.ofNode m dataset params

/-- The size errors of a build are the stops of the machine, as long as there is room for the
nodes. -/
theorem construct_eq_sizeOverflow_iff (m : MetricSpace) (ix : LayeredIndex)
    (hvalid : p.validate = .ok ()) (hwords : p.InWords) (henough : 2 ≤ p.links)
    (hnodes : Graph.NodesFit dataset.size) :
    (ix.construct m dataset p.toParams).1 = .error .sizeOverflow ↔
      ix.construct? m dataset p.toParams = none := by
  by_cases hfit : SizesFit p.links dataset.size
  · obtain ⟨g, hmodel, -⟩ := constructWith_wellFormed Level.ofNode m ix
      (accepts_of_sizesFit hvalid hwords henough hfit)
    have hmachine := constructWith?_of_sizesFit m ix hvalid hwords (Level.ofNode_le p.links)
      henough hfit
    rw [construct, construct?, hmachine, hmodel]
    constructor <;> intro h <;> cases h
  · refine iff_of_true ?_ (constructWith?_of_not_sizesFit hvalid hwords henough hfit)
    obtain ⟨hm, hbeam, hthreads⟩ := read_toParams hvalid hwords
    have hfew : ¬ p.m.getD GraphConfig.standardM < 2 := Nat.not_lt.mpr henough
    simp only [construct, constructWith, p.checkKnown_toParams, hm, hbeam, hthreads, if_neg hfew]
    by_cases hword : Number.maxWord < p.m.getD GraphConfig.standardM * 2
    · rw [if_pos hword]
    · have hlists : ¬ linksFit (p.m.getD GraphConfig.standardM * 2) dataset.size = true := by
        rw [linksFit, Bool.or_eq_true, decide_eq_true_eq, decide_eq_true_eq]
        exact fun hlists => hfit ⟨Nat.not_lt.mp hword, hnodes, hlists⟩
      rw [if_neg hword, if_neg hlists]

/-- Building any dataset with any valid values that fit in words, whatever was held: the machine
refuses a single link, and with more it either comes to the index over the dataset with just the
number of links given, twice as many on level zero, and the beam width given, or it stops. It stops
exactly if twice the number of links does not fit in a word, if there is no room for the nodes or if
there are two nodes and no room for a list of links; the other values do not matter. -/
theorem construct?_sizes (m : MetricSpace) (dataset : Dataset) (ix : LayeredIndex)
    (hvalid : p.validate = .ok ()) (hwords : p.InWords) :
    (p.links < 2 → ix.construct? m dataset p.toParams =
      some (.error (.index (.tooFewLinks p.links)), ix)) ∧
    (2 ≤ p.links → SizesFit p.links dataset.size → ∃ g,
      ix.construct? m dataset p.toParams = some (.ok (), { ix with graph := g }) ∧
        ix.construct m dataset p.toParams = (.ok (), { ix with graph := g }) ∧
        g.config.m = p.links ∧ g.config.bottomLinks = 2 * p.links ∧
        g.config.efConstruction = p.beam ∧ g.config.efSearch = ix.graph.config.efSearch ∧
        Graph.entriesOf g.nodes = dataset.entries ∧ g.maxLevel ≤ Level.maxLevel) ∧
    (2 ≤ p.links → (ix.construct? m dataset p.toParams = none ↔
      ¬ SizesFit p.links dataset.size)) := by
  have hlevels := Level.ofNode_le p.links
  refine ⟨fun hfew => ?few, fun henough hfit => ?fit, fun henough => ⟨fun h hfit => ?_, ?_⟩⟩
  case few => rw [construct?, constructWith?_of_valid hvalid hwords, if_pos hfew]
  case fit =>
    have haccepts := accepts_of_sizesFit hvalid hwords henough hfit
    obtain ⟨g, hbuild, -, hconfig, hentries⟩ := Graph.build_wellFormed m.dist
      (Level.ofNode p.links) (ix.buildConfig p.links p.beam) dataset.entries
    have hmodel : ix.construct m dataset p.toParams = (.ok (), { ix with graph := g }) :=
      constructWith_of_accepts haccepts hbuild
    have hmachine := constructWith?_of_sizesFit m ix hvalid hwords hlevels henough hfit
    refine ⟨g, hmachine.trans (congrArg some hmodel), hmodel, ?_, ?_, ?_, ?_, hentries,
      Graph.maxLevel_le_of_build hbuild hlevels⟩
    all_goals rw [hconfig]
    · rfl
    · exact Nat.mul_comm _ _
    · rfl
    · rfl
  · have hmachine := constructWith?_of_sizesFit m ix hvalid hwords hlevels henough hfit
    cases hmachine.symm.trans h
  · exact constructWith?_of_not_sizesFit hvalid hwords henough

/-- The greatest number of links that a list has room for, with the greatest beam width. -/
def widest : BuildParams := ⟨some (Nat.pow 2 64 - 1), some (Nat.pow 2 60 - 1), some 1⟩

theorem construct?_sizes_widest :
    let ix := fresh (.standard .l2)
    widest.validate = .ok () ∧ widest.InWords ∧ ∃ g,
      ix.construct? (.standard .l2) triple widest.toParams = some (.ok (), { ix with graph := g }) ∧
        g.config.m = Nat.pow 2 60 - 1 ∧ g.config.bottomLinks = Nat.pow 2 61 - 2 ∧
        Graph.entriesOf g.nodes = triple.entries := by
  intro ix
  have hvalid : widest.validate = .ok () := rfl
  have hwords : widest.InWords := by decide
  have hnodes : Graph.nodeBytes * triple.size ≤ maxBlock := by decide
  have hfit : SizesFit widest.links triple.size :=
    { word := by decide, nodes := hnodes, lists := .inr (by decide) }
  obtain ⟨g, hmachine, -, hm, hbottom, -, -, hentries, -⟩ :=
    (construct?_sizes (.standard .l2) triple ix hvalid hwords).2.1 (by decide) hfit
  exact ⟨hvalid, hwords, g, hmachine, hm.trans (by decide), hbottom.trans (by decide), hentries⟩

/-- A valid number of links that a list has no room for, so that it is not accepted for two
vectors. -/
def tooWide : BuildParams := ⟨none, some (Nat.pow 2 61), none⟩

/-- The batch of two vectors is accepted and the number of links is valid, and the machine stops. -/
theorem construct?_none_pair :
    ∃ dataset, Dataset.build .l2 [1, 2] [[0], [1]] = .ok dataset ∧ tooWide.validate = .ok () ∧
      tooWide.InWords ∧
      (fresh (.standard .l2)).construct? (.standard .l2) dataset tooWide.toParams = none := by
  have hwords : tooWide.InWords := by decide
  refine ⟨⟨.l2, 1, [⟨1, .dense [0]⟩, ⟨2, .dense [1]⟩]⟩, rfl, rfl, hwords, ?_⟩
  apply constructWith?_of_not_sizesFit rfl hwords (by decide)
  intro hfit
  have hlists : ¬ (2 < 2 ∨ Graph.linkBytes * (tooWide.links * 2) ≤ maxBlock) := by decide
  exact hlists hfit.lists

end Vicinity.LayeredIndex
