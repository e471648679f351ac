import Vicinity.Proofs.Graph.Answers
import Vicinity.Proofs.Graph.Growth
import Vicinity.Proofs.Index.Layered

/-!
Where searching a graph and scanning all vectors agree. On a connected graph a beam that is wide
enough finds every node, and the queue then ranks the same neighbours as a scan. An index over no
more vectors than one node and its links has such a graph.
-/

namespace Vicinity

namespace Graph

theorem neighbors_ids (metric : Metric) (nodes : Array Node) (query : Encoded) :
    (neighbors metric nodes query).map Neighbor.id = (entriesOf nodes).map Entry.id := by
  simp [neighbors, entriesOf, Function.comp_def]

/-- A wide search of a connected graph answers what a scan of its nodes answers. -/
theorem search_of_connected (m : MetricSpace) (space : Space) {g : Graph} (q : Query)
    (hchecked : g.checkIntegrity = .ok ()) (hconnected : Connected g.nodes)
    (hids : ((entriesOf g.nodes).map Entry.id).Nodup)
    (hwide : g.size ≤ max g.config.efSearch q.k) :
    ∃ found, search m.dist g q.vector q.k = some found ∧
      found.toSorted = (ExactIndex.search m q ⟨space, entriesOf g.nodes⟩).toSorted := by
  rw [scan_eq]
  rcases search_cases m.dist q.vector q.k hchecked with ⟨hnothing, hsearch⟩ |
    ⟨hk, entry, last, _, found, _, _, hlast, hfound, hsearch⟩
  · refine ⟨_, hsearch, ?_⟩
    have hlength := TopK.offered_length q.k (neighbors m.dist g.nodes q.vector)
    have hzero : min q.k (neighbors m.dist g.nodes q.vector).length = 0 := by
      rw [neighbors_length]
      unfold size at hnothing
      omega
    exact (List.eq_nil_of_length_eq_zero (hlength.trans hzero)).symm
  · have hrange := ((checkIntegrity_eq_ok_iff g).mp hchecked).2.2
    have hperm := hfound.perm_range hrange (List.cons_ne_nil last [])
      (List.forall_mem_singleton.mpr hlast) hconnected
      (show g.size ≤ min (max g.config.efSearch q.k) g.size by omega)
    have hall : (pick (neighbors m.dist g.nodes q.vector) (found.map Scored.node)).Perm
        (neighbors m.dist g.nodes q.vector) := by
      have hpicked := hperm.filterMap ((neighbors m.dist g.nodes q.vector)[·]?)
      have hrest := pick_range (neighbors m.dist g.nodes q.vector)
      rw [neighbors_length] at hrest
      exact hpicked.trans (List.Perm.of_eq hrest)
    refine ⟨_, hsearch, TopK.offered_perm hall ?_ q.k⟩
    rw [(hall.map Neighbor.id).nodup_iff, neighbors_ids]
    exact hids

end Graph

namespace LayeredIndex

theorem search_of_some {m : MetricSpace} {ix : LayeredIndex} {q : Query} {found : TopK}
    (h : Graph.search m.dist ix.graph q.vector q.k = some found) :
    ix.search m q = .ok found := by
  rw [search, h]

/-- Small indexes are searched exactly: over no more than one vector and its links, with different
ids and a beam as wide as the index, a search of the graph that was built answers the same as a
scan, whatever the distances and the levels of the nodes. -/
theorem search_eq_scan (levels : Nat → Nat → Nat) (m : MetricSpace) (ix : LayeredIndex)
    (space : Space) {dataset : Dataset} {params : Params} {links ef : Nat}
    (h : Accepts dataset params links ef) (hsmall : dataset.size ≤ 2 * links + 1)
    (hids : (dataset.entries.map Entry.id).Nodup) (efSearch : Nat) (q : Query)
    (hwide : dataset.size ≤ max efSearch q.k) :
    ∃ built found, ix.constructWith levels m dataset params = (.ok (), built) ∧
      (built.withConfig { built.graph.config with efSearch }).search m q = .ok found ∧
      found.toSorted = (ExactIndex.search m q ⟨space, dataset.entries⟩).toSorted := by
  have hlinks : dataset.entries.length ≤ (ix.buildConfig links ef).bottomLinks + 1 := by
    unfold Dataset.size at hsmall
    simp only [buildConfig]
    omega
  obtain ⟨g, hbuild, hg, hconfig, hentries, hconnected⟩ :=
    Graph.build_connected m.dist (levels links) (ix.buildConfig links ef) hlinks
  have hsize : g.size = dataset.size := by
    rw [Dataset.size, ← hentries, Graph.entriesOf_length, Graph.size]
  -- The beam width of searching is no part of what is built.
  let tuned : Graph := { g with config := { g.config with efSearch } }
  have hchecked : tuned.checkIntegrity = .ok () := hg.checkIntegrity_eq_ok
  obtain ⟨found, hsearch, hagree⟩ := Graph.search_of_connected m space (g := tuned) q hchecked
    hconnected (by rw [show Graph.entriesOf tuned.nodes = _ from hentries]; exact hids)
    (by rw [show tuned.size = _ from hsize]; exact hwide)
  refine ⟨_, found, constructWith_of_accepts h hbuild, search_of_some hsearch, ?_⟩
  rw [hagree, show Graph.entriesOf tuned.nodes = _ from hentries]

theorem search_eq_scan_triple :
    ∃ built found, (fresh (.standard .l2)).constructWith (fun _ i => i) (.standard .l2) triple
        ⟨[(ParamName.m, "2")]⟩ = (.ok (), built) ∧
      (built.withConfig { built.graph.config with efSearch := 1 }).search (.standard .l2)
        ⟨.dense [1], 3⟩ = .ok found ∧
      found.toSorted =
        (ExactIndex.search (.standard .l2) ⟨.dense [1], 3⟩ ⟨.l2, triple.entries⟩).toSorted :=
  search_eq_scan (fun _ i => i) (.standard .l2) (fresh (.standard .l2)) .l2 accepts_triple
    (by decide) (by decide) 1 ⟨.dense [1], 3⟩ (by decide)

end LayeredIndex

end Vicinity
