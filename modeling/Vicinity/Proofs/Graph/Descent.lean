import Vicinity.Distance
import Vicinity.Proofs.Graph.LevelSearch

/-!
Where a search on one level stops. What is next to the nodes found is found too, or a full beam has
no use for it. A beam of one therefore stops on a node that is at least as near as all its
neighbours, and a descent through the levels, which searches each of them with such a beam, never
moves away from the query.
-/

namespace Vicinity.Graph

/-- No neighbour of a node on a level is nearer to the query than the node itself. -/
def LocalOptimum (metric : Metric) (nodes : Array Node) (query : Encoded) (level : Nat)
    (s : Scored) : Prop :=
  ∀ t : Scored, t.Measures metric nodes query → Linked nodes level s.node t.node →
    s.distance.rankKey ≤ t.distance.rankKey

section Search

variable {metric : Metric} {nodes : Array Node} {query : Encoded} {entries : List Nat}
  {ef level : Nat} {found : List Scored}

/-- Each node that a search started from and each neighbour of a node found is found itself or of no
use to a full beam. -/
theorem Found.settled (h : Found metric nodes query entries ef level found)
    (hrange : LinksInRange nodes) (hentries : ∀ e ∈ entries, e < nodes.size) {i : Nat}
    (hi : i ∈ entries ∨ ∃ s ∈ found, Linked nodes level s.node i) :
    ∃ t : Scored, t.node = i ∧ t.Measures metric nodes query ∧
      (t ∈ found ∨ (found.length = beamWidth nodes ef ∧
        ∀ s ∈ found, s.distance.rankKey ≤ t.distance.rankKey)) := by
  have hlt : i < nodes.size := by
    rcases hi with hentry | ⟨s, -, hlink⟩
    · exact hentries i hentry
    · exact hrange level s.node i hlink
  obtain ⟨t, rfl, ht⟩ := exists_measures metric query hlt
  exact ⟨t, rfl, ht, h.optimal t ht hi⟩

/-- A beam of one finds a single node, and neither the nodes that it started from nor the neighbours
of what it found are nearer. -/
theorem Found.nearest (h : Found metric nodes query entries ef level found) (hef : ef ≤ 1)
    (hrange : LinksInRange nodes) (hentries : ∀ e ∈ entries, e < nodes.size)
    (hsome : entries ≠ []) :
    ∃ s, found = [s] ∧ s.Measures metric nodes query ∧
      ∀ t : Scored, t.Measures metric nodes query →
        t.node ∈ entries ∨ Linked nodes level s.node t.node →
        s.distance.rankKey ≤ t.distance.rankKey := by
  have hwidth : beamWidth nodes ef = 1 := by
    unfold beamWidth
    omega
  have hpos := List.length_pos_of_ne_nil (h.nonempty hrange hentries hsome)
  have hone : found.length = 1 := by
    have hcount := h.count
    omega
  obtain ⟨s, rfl⟩ := List.length_eq_one_iff.mp hone
  refine ⟨s, rfl, h.measured s (List.mem_singleton.mpr rfl), ?_⟩
  intro t ht hnear
  have hnext : t.node ∈ entries ∨ ∃ u ∈ [s], Linked nodes level u.node t.node := by
    apply hnear.imp_right
    intro hlink
    exact ⟨s, List.mem_singleton.mpr rfl, hlink⟩
  rcases h.optimal t ht hnext with hfound | ⟨-, hfar⟩
  · rw [List.mem_singleton.mp hfound]
  · exact hfar s (List.mem_singleton.mpr rfl)

/-- A search on one level ends where nothing next to it could improve it: every node that it started
from and every neighbour of a node found is found itself, or the beam is full and no node found is
farther. A beam of one finds one node, no farther than those it started from, and a local
optimum. -/
theorem searchLevel_settles (metric : Metric) (query : Encoded) (ef level : Nat)
    (hrange : LinksInRange nodes) (hentries : ∀ e ∈ entries, e < nodes.size)
    (hsome : entries ≠ []) {marks : Visited} (hmarks : marks.Dated) :
    ∃ found marks', searchLevel metric nodes query entries ef level marks = some (found, marks') ∧
      marks'.Dated ∧ found ≠ [] ∧
      (∀ i, (i ∈ entries ∨ ∃ s ∈ found, Linked nodes level s.node i) →
        ∃ t : Scored, t.node = i ∧ t.Measures metric nodes query ∧
          (t ∈ found ∨ (found.length = max 1 (min ef nodes.size) ∧
            ∀ s ∈ found, s.distance.rankKey ≤ t.distance.rankKey))) ∧
      (ef ≤ 1 → ∃ s, found = [s] ∧ s.Measures metric nodes query ∧
        (∀ t : Scored, t.Measures metric nodes query → t.node ∈ entries →
          s.distance.rankKey ≤ t.distance.rankKey) ∧
        LocalOptimum metric nodes query level s) := by
  obtain ⟨found, marks', hsearch, hmarks', hfound⟩ :=
    searchLevel_found metric query ef level hrange hentries hmarks
  refine ⟨found, marks', hsearch, hmarks', hfound.nonempty hrange hentries hsome, ?_, ?_⟩
  · intro i hi
    exact hfound.settled hrange hentries hi
  · intro hef
    obtain ⟨s, hs, hmeasures, hnearest⟩ := hfound.nearest hef hrange hentries hsome
    refine ⟨s, hs, hmeasures, ?_, ?_⟩
    · intro t ht hentry
      exact hnearest t ht (Or.inl hentry)
    · intro t ht hlink
      exact hnearest t ht (Or.inr hlink)

/-- A path whose second node is nearer to `[1, 2, 3, 4]` than both its neighbours, but not as near
as the last one. -/
def ridge : Array Node :=
  #[⟨7, .sparse [9], [[1]]⟩, ⟨8, .sparse [1, 2], [[0, 2]]⟩, ⟨9, .sparse [5], [[1, 3]]⟩,
    ⟨10, .sparse [1, 2, 3, 4], [[2]]⟩]

/-- A beam of one that starts from both equally far neighbours of the second node, one of them given
twice. -/
theorem searchLevel_settles_ridge :
    LinksInRange ridge ∧ ∃ s marks',
      searchLevel Space.sparseJaccard.distance ridge (.sparse [1, 2, 3, 4]) [0, 0, 2] 1 0
        Visited.empty = some ([s], marks') ∧
      (∀ t : Scored, t.Measures Space.sparseJaccard.distance ridge (.sparse [1, 2, 3, 4]) →
        t.node ∈ [0, 0, 2] → s.distance.rankKey ≤ t.distance.rankKey) ∧
      LocalOptimum Space.sparseJaccard.distance ridge (.sparse [1, 2, 3, 4]) 0 s := by
  have hrange : LinksInRange ridge :=
    (firstLooseNode_eq_none_iff ⟨GraphConfig.standard, ridge, some 0, 0⟩).mp (by rfl)
  obtain ⟨_, marks', hsearch, -, -, -, hone⟩ := searchLevel_settles Space.sparseJaccard.distance
    (.sparse [1, 2, 3, 4]) 1 0 hrange (by decide) (by decide : [0, 0, 2] ≠ []) Visited.empty_dated
  obtain ⟨s, rfl, -, hentries, hoptimum⟩ := hone (le_refl 1)
  exact ⟨hrange, s, marks', hsearch, hentries, hoptimum⟩

/-- A descent ends on a node no farther from the query than the one it started from, and none of the
neighbours on the last level that it passed is nearer than that node. -/
theorem descend_nearer (hrange : LinksInRange nodes) (floor steps : Nat) {start : Scored}
    (hstart : start.Measures metric nodes query) {marks : Visited} (hmarks : marks.Dated) :
    ∃ (last : Scored) (marks' : Visited),
      descend metric nodes query floor steps start.node marks = some (last.node, marks') ∧
      marks'.Dated ∧ last.Measures metric nodes query ∧
      last.distance.rankKey ≤ start.distance.rankKey ∧
      (0 < steps → LocalOptimum metric nodes query (floor + 1) last) := by
  induction steps generalizing start marks with
  | zero =>
      refine ⟨start, marks, rfl, hmarks, hstart, le_refl _, ?_⟩
      intro hpos
      exact absurd hpos (lt_irrefl 0)
  | succ steps ih =>
      have hentries : ∀ e ∈ [start.node], e < nodes.size := by simpa using hstart.lt
      obtain ⟨found, marks₁, hsearch, hmarks₁, hfound⟩ :=
        searchLevel_found metric query 1 (floor + steps + 1) hrange hentries hmarks
      obtain ⟨s, rfl, hs, hnearest⟩ :=
        hfound.nearest (le_refl 1) hrange hentries (List.cons_ne_nil _ _)
      obtain ⟨last, marks₂, hdescend, hmarks₂, hlast, hnearer, hoptimum⟩ := ih hs hmarks₁
      refine ⟨last, marks₂, ?_, hmarks₂, hlast, ?_, ?_⟩
      · rw [descend, hsearch, Option.bind_eq_bind, Option.bind_some]
        exact hdescend
      · have hcloser : s.distance.rankKey ≤ start.distance.rankKey := by
          apply hnearest start hstart
          exact Or.inl (List.mem_singleton.mpr rfl)
        exact hnearer.trans hcloser
      · intro _
        cases steps with
        | zero =>
            -- Nothing is left to descend, so the descent ends on what this level found.
            rw [descend] at hdescend
            have hnode := congrArg Prod.fst (Option.some.inj hdescend)
            rw [hlast.eq_of_node hs hnode.symm]
            intro t ht hlink
            exact hnearest t ht (Or.inr hlink)
        | succ steps => exact hoptimum (Nat.succ_pos steps)

end Search

end Vicinity.Graph
