import Vicinity.Proofs.Graph.LevelSearch
import Vicinity.Proofs.Graph.Table
import Vicinity.Proofs.Retention
import Vicinity.Index.Exact

/-!
What a search answers on any graph that passes the integrity check, wherever the graph comes from:
links may repeat, lead to nodes of other levels or run in circles, and the levels may be anything.
The search ends without looking past the node table, and its answer is a ranked choice of different
nodes at their true distances, never better at any place than an exhaustive scan.
-/

namespace Vicinity.Graph

/-- Everything there is to find, node by node. -/
def neighbors (metric : Metric) (nodes : Array Node) (query : Encoded) : List Neighbor :=
  nodes.toList.map fun n => ⟨n.id, metric query n.vector⟩

@[simp] theorem neighbors_length (metric : Metric) (nodes : Array Node) (query : Encoded) :
    (neighbors metric nodes query).length = nodes.size := by
  simp [neighbors]

theorem neighbors_eq_map (metric : Metric) (nodes : Array Node) (query : Encoded) :
    neighbors metric nodes query =
      (entriesOf nodes).map fun e => ⟨e.id, metric query e.vector⟩ := by
  simp [neighbors, entriesOf, Function.comp_def]

/-- A scan over the stored vectors is offered everything there is to find. -/
theorem scan_eq (m : MetricSpace) (space : Space) (nodes : Array Node) (q : Query) :
    ExactIndex.search m q ⟨space, entriesOf nodes⟩ =
      (TopK.empty q.k).pushAll (neighbors m.dist nodes q.vector) := by
  rw [neighbors_eq_map]
  rfl

theorem neighborAt_eq {metric : Metric} {nodes : Array Node} {query : Encoded} {s : Scored}
    (hs : s.Measures metric nodes query) :
    neighborAt nodes s = (neighbors metric nodes query)[s.node]? := by
  obtain ⟨n, hn, hdistance⟩ := hs
  simp [neighborAt, neighbors, hn, hdistance]

theorem positions_lt {metric : Metric} {nodes : Array Node} {query : Encoded} {found : List Scored}
    (hfound : ∀ s ∈ found, s.Measures metric nodes query) :
    ∀ i ∈ found.map Scored.node, i < (neighbors metric nodes query).length := by
  intro i hi
  obtain ⟨s, hs, rfl⟩ := List.mem_map.mp hi
  rw [neighbors_length]
  exact (hfound s hs).lt

/-- The neighbours at the given positions among all there are. -/
def pick (all : List Neighbor) (positions : List Nat) : List Neighbor :=
  positions.filterMap (all[·]?)

theorem mapM_neighborAt {metric : Metric} {nodes : Array Node} {query : Encoded}
    {found : List Scored} (hfound : ∀ s ∈ found, s.Measures metric nodes query) :
    found.mapM (neighborAt nodes) =
      some (pick (neighbors metric nodes query) (found.map Scored.node)) := by
  induction found with
  | nil => rfl
  | cons s rest ih =>
      have hs := hfound s List.mem_cons_self
      have hlt := positions_lt hfound s.node List.mem_cons_self
      rw [List.mapM_cons, ih fun t ht => hfound t (List.mem_cons_of_mem s ht),
        neighborAt_eq hs, List.getElem?_eq_getElem hlt]
      simp [pick, List.getElem?_eq_getElem hlt]

theorem pick_length {all : List Neighbor} {positions : List Nat}
    (h : ∀ i ∈ positions, i < all.length) : (pick all positions).length = positions.length := by
  induction positions with
  | nil => rfl
  | cons i rest ih =>
      have hi := h i List.mem_cons_self
      have hrest := ih fun j hj => h j (List.mem_cons_of_mem i hj)
      simpa [pick, List.getElem?_eq_getElem hi] using hrest

theorem pick_range (all : List Neighbor) : pick all (List.range all.length) = all := by
  apply List.map_injective_iff.mpr (Option.some_injective Neighbor)
  have hall : ∀ positions : List Nat, (∀ i ∈ positions, i < all.length) →
      (pick all positions).map some = positions.map (all[·]?) := by
    intro positions h
    induction positions with
    | nil => rfl
    | cons i rest ih =>
        have hi := h i List.mem_cons_self
        have hrest := ih fun j hj => h j (List.mem_cons_of_mem i hj)
        simpa [pick, List.getElem?_eq_getElem hi] using hrest
  rw [hall _ fun i hi => List.mem_range.mp hi]
  apply List.ext_getElem?
  intro i
  by_cases hi : i < all.length
  · simp [hi]
  · simp [hi]

/-- Different positions give a choice of what there is, each item taken at most once. -/
theorem pick_subperm {all : List Neighbor} {positions : List Nat} (hdistinct : positions.Nodup)
    (h : ∀ i ∈ positions, i < all.length) : (pick all positions).Subperm all := by
  have hsub : positions.Subperm (List.range all.length) :=
    List.subperm_of_subset hdistinct fun i hi => List.mem_range.mpr (h i hi)
  obtain ⟨l, hperm, hsublist⟩ := hsub
  have hpicked : (pick all l).Sublist all := by
    conv_rhs => rw [← pick_range all]
    exact hsublist.filterMap _
  exact (hperm.symm.filterMap _).subperm.trans hpicked.subperm

/-- A choice among picked neighbours comes from a choice among their positions. -/
theorem exists_positions {all results : List Neighbor} {positions : List Nat}
    (hdistinct : positions.Nodup) (h : results.Subperm (pick all positions)) :
    ∃ sources : List Nat, sources.Nodup ∧
      List.Forall₂ (fun r i => all[i]? = some r) results sources := by
  obtain ⟨l, hperm, hsub⟩ := h
  obtain ⟨chosen, hchosen, rfl⟩ := List.sublist_filterMap_iff.mp hsub
  -- Positions past the end name nothing, so those that do are a choice as well.
  have hnamed : List.Forall₂ (fun r i => all[i]? = some r) (chosen.filterMap (all[·]?))
      (chosen.filter fun i => (all[i]?).isSome) := by
    clear hperm hchosen hsub
    induction chosen with
    | nil => exact List.Forall₂.nil
    | cons i rest ih =>
        cases hi : all[i]? with
        | none => simpa [hi] using ih
        | some r => simpa [hi] using ih
  obtain ⟨sources, hsources, hsame⟩ := List.perm_comp_forall₂ hperm.symm hnamed
  refine ⟨sources, hsame.nodup_iff.mpr ?_, hsources⟩
  exact (hdistinct.sublist hchosen).sublist List.filter_sublist

/-- A search pushes what the search on level zero finds from where the descent ends. -/
theorem search_eq_some {metric : Metric} {g : Graph} {query : Encoded} {k entry last : Nat}
    {marks marks' : Visited} {found : List Scored} (hk : k ≠ 0) (hentry : g.entry = some entry)
    (hdescend : descend metric g.nodes query 0 g.maxLevel entry Visited.empty = some (last, marks))
    (hsearch : searchLevel metric g.nodes query [last] (min (max g.config.efSearch k) g.size) 0
      marks = some (found, marks'))
    (hmeasured : ∀ s ∈ found, s.Measures metric g.nodes query) :
    search metric g query k = some ((TopK.empty k).pushAll
      (pick (neighbors metric g.nodes query) (found.map Scored.node))) := by
  unfold search
  simp only [hentry, if_neg hk, hdescend, hsearch, mapM_neighborAt hmeasured,
    Option.bind_eq_bind, Option.bind_some]
  rfl

/-- On a checked graph the descent and the search on level zero come to an end, however wide the
beam is. -/
theorem search_runs (metric : Metric) {g : Graph} (query : Encoded) (ef : Nat)
    (hchecked : g.checkIntegrity = .ok ()) {entry : Nat} (hentry : g.entry = some entry) :
    ∃ last marks found marks',
      descend metric g.nodes query 0 g.maxLevel entry Visited.empty = some (last, marks) ∧
      marks.Dated ∧ last < g.size ∧
      searchLevel metric g.nodes query [last] ef 0 marks = some (found, marks') ∧
      Found metric g.nodes query [last] ef 0 found := by
  obtain ⟨hstart, -, hrange⟩ := (checkIntegrity_eq_ok_iff g).mp hchecked
  obtain ⟨last, marks, hdescend, hmarks, hlast, -⟩ := descend_stays metric query hrange
    (P := fun _ => True) 0 g.maxLevel (hstart entry hentry) trivial
    (fun _ _ _ _ _ _ => trivial) Visited.empty_dated
  have hlasts : ∀ e ∈ [last], e < g.nodes.size := by simpa using hlast
  obtain ⟨found, marks', hsearch, -, hfound⟩ :=
    searchLevel_found metric query ef 0 hrange hlasts hmarks
  exact ⟨last, marks, found, marks', hdescend, hmarks, hlast, hsearch, hfound⟩

/-- All that a search of a checked graph can do: answer nothing where nothing is asked for or there
is nothing, or push what a search on level zero finds from where the descent ends. -/
theorem search_cases (metric : Metric) {g : Graph} (query : Encoded) (k : Nat)
    (hchecked : g.checkIntegrity = .ok ()) :
    ((k = 0 ∨ g.size = 0) ∧ search metric g query k = some (TopK.empty k)) ∨
    (k ≠ 0 ∧ ∃ entry last marks found, g.entry = some entry ∧
      descend metric g.nodes query 0 g.maxLevel entry Visited.empty = some (last, marks) ∧
      last < g.size ∧
      Found metric g.nodes query [last] (min (max g.config.efSearch k) g.size) 0 found ∧
      search metric g query k = some ((TopK.empty k).pushAll
        (pick (neighbors metric g.nodes query) (found.map Scored.node)))) := by
  cases hstart : g.entry with
  | none =>
      obtain ⟨-, hnone, -⟩ := (checkIntegrity_eq_ok_iff g).mp hchecked
      exact Or.inl ⟨Or.inr (hnone hstart), by simp [search, hstart]⟩
  | some entry =>
      by_cases hk : k = 0
      · exact Or.inl ⟨Or.inl hk, by simp [search, hstart, hk]⟩
      · obtain ⟨last, marks, found, _, hdescend, -, hlast, hsearch, hfound⟩ :=
          search_runs metric query (min (max g.config.efSearch k) g.size) hchecked hstart
        exact Or.inr ⟨hk, entry, last, marks, found, rfl, hdescend, hlast, hfound,
          search_eq_some hk hstart hdescend hsearch hfound.measured⟩

/-- The answer made of what a search finds is as long as that, unless less is asked for. -/
theorem answer_length {metric : Metric} {nodes : Array Node} {query : Encoded} {found : List Scored}
    (k : Nat) (hmeasured : ∀ s ∈ found, s.Measures metric nodes query) :
    ((TopK.empty k).pushAll
      (pick (neighbors metric nodes query) (found.map Scored.node))).toSorted.length =
      min k found.length := by
  rw [TopK.offered_length, pick_length (positions_lt hmeasured), List.length_map]

/-- What the results of a search have to be. -/
structure Answers (metric : Metric) (g : Graph) (query : Encoded) (k : Nat)
    (results : List Neighbor) : Prop where
  few : results.length ≤ min k g.size
  ordered : results.Pairwise fun a b => a.rank ≤ b.rank
  sources : ∃ sources : List Nat, sources.Nodup ∧
    List.Forall₂ (fun r i => ∃ n, g.nodes[i]? = some n ∧ r.id = n.id ∧
      r.distance = metric query n.vector) results sources
  nonempty : 1 ≤ k → 1 ≤ g.size → results ≠ []
  behindScan : ∀ space i, ∀ hi : i < results.length,
    ∃ r, (ExactIndex.search ⟨space, metric⟩ ⟨query, k⟩ ⟨space, entriesOf g.nodes⟩).toSorted[i]? =
      some r ∧ r.rank ≤ results[i].rank

/-- A search of any graph that passes the integrity check comes to an end without looking past the
node table, and answers what it should: at most `k` of the nodes, each once, with its id and its
true distance, in order, and at every place no nearer than an exhaustive scan. -/
theorem search_answers (metric : Metric) (g : Graph) (query : Encoded) (k : Nat)
    (hchecked : g.checkIntegrity = .ok ()) :
    ∃ q, search metric g query k = some q ∧ Answers metric g query k q.toSorted := by
  rcases search_cases metric query k hchecked with ⟨hnothing, hsearch⟩ |
    ⟨hk, entry, last, _, found, _, _, hlast, hfound, hsearch⟩
  · refine ⟨_, hsearch, ?_⟩
    refine
      { few := by simp [TopK.empty, TopK.toSorted]
        ordered := List.Pairwise.nil
        sources := ⟨[], List.nodup_nil, List.Forall₂.nil⟩
        nonempty := fun hk hsize => by omega
        behindScan := fun _ i hi => by simp [TopK.empty, TopK.toSorted] at hi }
  · have hrange := ((checkIntegrity_eq_ok_iff g).mp hchecked).2.2
    have hentries : ∀ e ∈ [last], e < g.nodes.size := by simpa [size] using hlast
    have hpositions := positions_lt hfound.measured
    have hpart := pick_subperm hfound.distinct hpositions
    have hlength := pick_length hpositions
    have hfew := hpart.length_le
    rw [neighbors_length] at hfew
    obtain ⟨sources, hdistinct, hsources⟩ := exists_positions hfound.distinct
      (TopK.offered_retains k (pick (neighbors metric g.nodes query)
        (found.map Scored.node))).toSorted_subperm
    refine ⟨_, hsearch, ?_⟩
    refine
      { few := ?_, ordered := (TopK.offered_retains k _).toSorted_ordered
        sources := ⟨sources, hdistinct, hsources.imp ?_⟩
        nonempty := ?_, behindScan := ?_ }
    · rw [TopK.offered_length]
      unfold size
      omega
    · intro r i hr
      obtain ⟨n, hn, rfl⟩ : ∃ n, g.nodes[i]? = some n ∧
          (⟨n.id, metric query n.vector⟩ : Neighbor) = r := by
        simpa [neighbors] using hr
      exact ⟨n, hn, rfl, rfl⟩
    · intro _ _ hempty
      have hsome := hfound.nonempty hrange hentries (by simp)
      have hnone := TopK.offered_length k (pick (neighbors metric g.nodes query)
        (found.map Scored.node))
      have hpos := List.length_pos_of_ne_nil hsome
      rw [hempty, hlength, List.length_map, List.length_nil] at hnone
      omega
    · intro space i hi
      rw [scan_eq]
      exact TopK.exists_rank_le_of_subperm k hpart hi

/-- A graph as a file may hold it: an id twice, links that repeat and run in circles, a link to a
node that does not reach its level, and more levels than any node has. -/
def tangled : Graph :=
  { config := GraphConfig.standard
    nodes := #[⟨4, .sparse [1, 2], [[1, 1, 0], [1]]⟩, ⟨4, .dense [0], [[0]]⟩]
    entry := some 0
    maxLevel := 5 }

theorem search_answers_tangled :
    tangled.checkIntegrity = .ok () ∧
      ∃ q, search Space.sparseJaccard.distance tangled (.sparse [1]) 2 = some q ∧
        Answers Space.sparseJaccard.distance tangled (.sparse [1]) 2 q.toSorted :=
  ⟨rfl, search_answers _ _ _ _ rfl⟩

end Vicinity.Graph
