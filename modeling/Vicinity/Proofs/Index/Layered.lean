import Vicinity.Index.Layered
import Vicinity.Proofs.Graph.BackLinks

/-!
Building an index over a dataset, whatever the vectors, the way to compare them and the levels of
the nodes: where the parameters are accepted there is always a result, and it is well formed. At
every stage on the way a link is answered unless the list that should answer it is full.
-/

namespace Vicinity

theorem Level.ofNode_le (links i : Nat) : ofNode links i ≤ maxLevel := Nat.min_le_left maxLevel _

namespace LayeredIndex

/-- Whether parameters are accepted for a dataset: just those are with which a build returns a graph
(`accepts_of_ok`, `constructWith_of_accepts`). `links` is the number of links of a node, `ef` the
beam width. Valid parameters are not accepted where the size of the lists of links stops the build,
which is so for two vectors or more from `2 ^ 60` links on (`SizesFit`). -/
structure Accepts (dataset : Dataset) (params : Params) (links ef : Nat) : Prop where
  known : params.checkKnown constructNames = .ok ()
  given : ∃ given, params.getPositive? ParamName.m = .ok given ∧
    given.getD GraphConfig.standardM = links
  enough : 2 ≤ links
  inWord : links * 2 ≤ Number.maxWord
  beam : ∃ given, params.getPositive? ParamName.efConstruction = .ok given ∧
    given.getD GraphConfig.standardEfConstruction = ef
  threads : ∃ given, params.getPositive? ParamName.threadCount = .ok given
  inMemory : linksFit (links * 2) dataset.size = true

variable {levels : Nat → Nat → Nat} {m : MetricSpace} {dataset : Dataset} {params : Params}
  {ix ix' : LayeredIndex} {links ef : Nat}

def buildConfig (ix : LayeredIndex) (links ef : Nat) : GraphConfig :=
  ⟨links, links * 2, ef, ix.graph.config.efSearch⟩

theorem buildConfig_maxLinks (ix : LayeredIndex) (links ef level : Nat) :
    (ix.buildConfig links ef).maxLinks level = if level = 0 then 2 * links else links := by
  simp only [buildConfig, GraphConfig.maxLinks, Nat.mul_comm]

/-- With accepted parameters the graph over the dataset takes the place of the one held. -/
theorem constructWith_of_accepts (h : Accepts dataset params links ef) {g : Graph}
    (hbuild : Graph.build m.dist (levels links) (ix.buildConfig links ef) dataset.entries =
      some g) :
    ix.constructWith levels m dataset params = (.ok (), { ix with graph := g }) := by
  obtain ⟨given, hgiven, rfl⟩ := h.given
  obtain ⟨beam, hbeam, rfl⟩ := h.beam
  obtain ⟨threads, hthreads⟩ := h.threads
  have henough : ¬ given.getD GraphConfig.standardM < 2 := by
    have henough := h.enough
    omega
  have hword : ¬ Number.maxWord < given.getD GraphConfig.standardM * 2 := by
    have hword := h.inWord
    omega
  unfold buildConfig at hbuild
  simp only [constructWith, h.known, hgiven, hbeam, hthreads, if_neg henough, if_neg hword,
    h.inMemory, if_true, withConfig, hbuild]

/-- Parameters that leave everything to the backend are accepted for every dataset. -/
theorem accepts_unset (dataset : Dataset) : Accepts dataset BuildParams.unset.toParams
    GraphConfig.standardM GraphConfig.standardEfConstruction where
  known := rfl
  given := ⟨none, rfl, rfl⟩
  enough := by decide
  inWord := by decide
  beam := ⟨none, rfl, rfl⟩
  threads := ⟨none, rfl⟩
  inMemory := by
    have hblock : 4 * (GraphConfig.standardM * 2) ≤ maxBlock := by decide
    rw [linksFit, Bool.or_eq_true]
    exact Or.inr (decide_eq_true hblock)

/-- Building succeeds only with parameters that are accepted. -/
theorem accepts_of_ok (h : ix.constructWith levels m dataset params = (.ok (), ix')) :
    ∃ links ef, Accepts dataset params links ef := by
  unfold constructWith at h
  cases hknown : params.checkKnown constructNames with
  | error => simp [hknown] at h
  | ok =>
  cases hgiven : params.getPositive? ParamName.m with
  | error => simp [hknown, hgiven] at h
  | ok given =>
  simp only [hknown, hgiven] at h
  split at h
  · simp at h
  rename_i henough
  split at h
  · simp at h
  rename_i hword
  cases hbeam : params.getPositive? ParamName.efConstruction with
  | error => simp [hbeam] at h
  | ok beam =>
  cases hthreads : params.getPositive? ParamName.threadCount with
  | error => simp [hbeam, hthreads] at h
  | ok threads =>
  simp only [hbeam, hthreads] at h
  split at h
  · rename_i hmemory
    exact ⟨_, _,
      { known := hknown, given := ⟨given, hgiven, rfl⟩, enough := by omega, inWord := by omega
        beam := ⟨beam, hbeam, rfl⟩, threads := ⟨threads, hthreads⟩, inMemory := hmemory }⟩
  · simp at h

/-- A build that succeeds has accepted its parameters and taken in the graph over the dataset. -/
theorem constructWith_spec (h : ix.constructWith levels m dataset params = (.ok (), ix')) :
    ∃ links ef g, Accepts dataset params links ef ∧
      Graph.build m.dist (levels links) (ix.buildConfig links ef) dataset.entries = some g ∧
      ix' = { ix with graph := g } := by
  obtain ⟨links, ef, haccepts⟩ := accepts_of_ok h
  obtain ⟨g, hbuild, -⟩ :=
    Graph.build_wellFormed m.dist (levels links) (ix.buildConfig links ef) dataset.entries
  rw [constructWith_of_accepts haccepts hbuild] at h
  exact ⟨links, ef, g, haccepts, hbuild, (Prod.mk.inj h).2.symm⟩

/-- Building with accepted parameters always succeeds, whatever the vectors, their distances and
the levels of the nodes. The graph holds the entries of the dataset in their order and is well
formed for the limits asked for, so that loading it back is not refused. -/
theorem constructWith_wellFormed (levels : Nat → Nat → Nat) (m : MetricSpace) (ix : LayeredIndex)
    (h : Accepts dataset params links ef) :
    ∃ g, ix.constructWith levels m dataset params = (.ok (), { ix with graph := g }) ∧
      g.config = ix.buildConfig links ef ∧ Graph.entriesOf g.nodes = dataset.entries ∧
      g.WellFormed ∧ g.checkIntegrity = .ok () := by
  obtain ⟨g, hbuild, hg, hconfig, hentries⟩ :=
    Graph.build_wellFormed m.dist (levels links) (ix.buildConfig links ef) dataset.entries
  exact ⟨g, constructWith_of_accepts h hbuild, hconfig, hentries, hg, hg.checkIntegrity_eq_ok⟩

/-- Three vectors in a space where two of them are not comparable. -/
def triple : Dataset :=
  ⟨.l2, 1, [⟨5, .dense [0]⟩, ⟨-3, .dense [Single.invalid]⟩, ⟨8, .dense [1]⟩]⟩

theorem accepts_triple : Accepts triple ⟨[(ParamName.m, "2")]⟩ 2 200 where
  known := rfl
  given := ⟨some 2, by decide, rfl⟩
  enough := le_refl 2
  inWord := by decide
  beam := ⟨none, rfl, rfl⟩
  threads := ⟨none, rfl⟩
  inMemory := by decide

theorem constructWith_wellFormed_triple :
    ∃ g, (fresh (.standard .l2)).constructWith (fun _ i => i) (.standard .l2) triple
        ⟨[(ParamName.m, "2")]⟩ = (.ok (), { fresh (.standard .l2) with graph := g }) ∧
      g.config = (fresh (.standard .l2)).buildConfig 2 200 ∧
      Graph.entriesOf g.nodes = triple.entries ∧ g.WellFormed ∧ g.checkIntegrity = .ok () :=
  constructWith_wellFormed (fun _ i => i) (.standard .l2) (fresh (.standard .l2)) accepts_triple

/-- At every stage of a build with at least two links for each node, here after some `early`
entries, a link is answered unless the list that should answer it has reached the limit of its
level, which is twice the number of links on level zero; and every node but the first has a link
there. A list that has reached its limit has just as many links at every later stage, here after
more entries. -/
theorem constructWith_answered (levels : Nat → Nat → Nat) (m : MetricSpace) (ix : LayeredIndex)
    (ef : Nat) (hlinks : 2 ≤ links) (early more late : List Entry) :
    let limit (level : Nat) : Nat := if level = 0 then 2 * links else links
    ∃ g marks g' marks' g'' marks'',
      Graph.insertAll m.dist (levels links) (Graph.empty (ix.buildConfig links ef))
        Graph.Visited.empty early = some (g, marks) ∧
      Graph.insertAll m.dist (levels links) g marks more = some (g', marks') ∧
      Graph.insertAll m.dist (levels links) g' marks' late = some (g'', marks'') ∧
      (∀ dataset params, dataset.entries = early ++ more ++ late →
        Accepts dataset params links ef →
        ix.constructWith levels m dataset params = (.ok (), { ix with graph := g'' })) ∧
      g.size = early.length ∧
      (∀ level a b, b ∈ Graph.linksOf g.nodes level a → a ∈ Graph.linksOf g.nodes level b ∨
        (Graph.linksOf g.nodes level b).length = limit level) ∧
      (∀ level i, (Graph.linksOf g.nodes level i).length = limit level →
        (Graph.linksOf g'.nodes level i).length = limit level) ∧
      ∀ i, 0 < i → i < g.size → Graph.linksOf g.nodes 0 i ≠ [] := by
  intro limit
  have hlimit : ∀ level, (ix.buildConfig links ef).maxLinks level = limit level :=
    ix.buildConfig_maxLinks links ef
  have hpos : ∀ level, 1 ≤ limit level := by
    intro level
    unfold limit
    split <;> omega
  have hroom : 1 ≤ (ix.buildConfig links ef).maxLinks 0 := (hpos 0).trans_eq (hlimit 0).symm
  obtain ⟨g, marks, hearly, hmarks, hg, hconfig, hentries, hanswered, -⟩ :=
    Graph.insertAll_answered m.dist (levels links) early
      (Graph.empty_wellFormed (ix.buildConfig links ef)) hroom (Graph.empty_answered _)
      Graph.Visited.empty_dated
  have hconfig : g.config = ix.buildConfig links ef := hconfig
  obtain ⟨g', marks', hmore, hmarks', hg', hconfig', -, hanswered', hfull⟩ :=
    Graph.insertAll_answered m.dist (levels links) more hg (hconfig ▸ hroom) hanswered hmarks
  obtain ⟨g'', marks'', hlate, -⟩ :=
    Graph.insertAll_answered m.dist (levels links) late hg' (hconfig' ▸ hconfig ▸ hroom)
      hanswered' hmarks'
  refine ⟨g, marks, g', marks', g'', marks'', hearly, hmore, hlate, ?_, ?_, ?_, ?_,
    hanswered.attached⟩
  · intro dataset params hparts haccepts
    apply constructWith_of_accepts haccepts
    rw [Graph.build, hparts, Graph.insertAll_append, Graph.insertAll_append, hearly,
      Option.bind_some, hmore, Option.bind_some, hlate, Option.map_some]
  · have hlength := congrArg List.length hentries
    simpa [Graph.empty, Graph.entriesOf, Graph.size] using hlength
  · intro level a b hlink
    rw [← hlimit level, ← hconfig]
    exact hanswered.full level a b hlink
  · intro level i hlist
    have hi : i < g.size := Graph.lt_of_linksOf_length_pos (hlist ▸ hpos level)
    rw [← hlimit level, ← hconfig] at hlist ⊢
    exact hfull level i hi hlist

/-- Equal vectors under different ids. -/
def equalEntries (count : Nat) : List Entry := (List.range count).map fun i => ⟨i, .sparse [1]⟩

/-- Six equal vectors with two links for each: the last one is linked to four full lists. Another
vector follows. -/
theorem constructWith_answered_equals :
    let insertAll := Graph.insertAll Space.sparseJaccard.distance fun _ => 0
    let limit (level : Nat) : Nat := if level = 0 then 4 else 2
    ∃ g marks g' marks',
      insertAll (Graph.empty ⟨2, 4, 200, 100⟩) Graph.Visited.empty (equalEntries 6) =
        some (g, marks) ∧
      insertAll g marks [⟨-7, .sparse [1, 2]⟩] = some (g', marks') ∧
      (∀ level a b, b ∈ Graph.linksOf g.nodes level a → a ∈ Graph.linksOf g.nodes level b ∨
        (Graph.linksOf g.nodes level b).length = limit level) ∧
      (∀ level i, (Graph.linksOf g.nodes level i).length = limit level →
        (Graph.linksOf g'.nodes level i).length = limit level) ∧
      ∀ i, 0 < i → i < 6 → Graph.linksOf g.nodes 0 i ≠ [] := by
  intro insertAll limit
  obtain ⟨g, marks, g', marks', -, -, hearly, hmore, -, -, hsize, hfull, hstill, hsome⟩ :=
    constructWith_answered (fun _ _ => 0) (.standard .sparseJaccard)
      (fresh (.standard .sparseJaccard)) 200 (le_refl 2) (equalEntries 6) [⟨-7, .sparse [1, 2]⟩] []
  have hsix : g.size = 6 := hsize
  rw [hsix] at hsome
  exact ⟨g, marks, g', marks', hearly, hmore, hfull, hstill, hsome⟩

end LayeredIndex

end Vicinity
