import Vicinity.Proofs.Graph.Answers
import Vicinity.Proofs.Graph.Growth

/-!
How many neighbours a search answers. A beam that is as wide as the number asked for finds all that
links of level zero lead to, so the answer is short exactly where they do not lead far enough.
-/

namespace Vicinity.Graph

/-- How many nodes a search for a vector can find: those that links of level zero lead to from where
its descent ends. -/
noncomputable def findable (metric : Metric) (g : Graph) (query : Encoded) : Nat :=
  match g.entry with
  | none => 0
  | some entry =>
    match descend metric g.nodes query 0 g.maxLevel entry Visited.empty with
    | none => 0
    | some (last, _) => reachCount g.nodes 0 [last]

variable {metric : Metric} {g : Graph} {query : Encoded}

theorem findable_of_empty (hchecked : g.checkIntegrity = .ok ()) (hempty : g.size = 0) :
    g.findable metric query = 0 := by
  obtain ⟨hentry, -, -⟩ := (checkIntegrity_eq_ok_iff g).mp hchecked
  unfold findable
  cases hstart : g.entry with
  | none => rfl
  | some entry =>
      have hlt := hentry entry hstart
      omega

theorem findable_le_size (hchecked : g.checkIntegrity = .ok ()) :
    g.findable metric query ≤ g.size := by
  rcases search_cases metric query 1 hchecked with ⟨hnothing, -⟩ |
    ⟨-, entry, last, marks, found, hentry, hdescend, hlast, -, -⟩
  · rw [findable_of_empty hchecked (by omega)]
    exact Nat.zero_le _
  · have hrange := ((checkIntegrity_eq_ok_iff g).mp hchecked).2.2
    simp only [findable, hentry, hdescend]
    exact reachCount_le hrange (by simpa [size] using hlast)

/-- On a connected graph every node can be found. -/
theorem findable_of_connected (hchecked : g.checkIntegrity = .ok ())
    (hconnected : Connected g.nodes) : g.findable metric query = g.size := by
  refine le_antisymm (findable_le_size hchecked) ?_
  rcases search_cases metric query 1 hchecked with ⟨hnothing, -⟩ |
    ⟨-, entry, last, marks, found, hentry, hdescend, hlast, -, -⟩
  · omega
  · have hrange := ((checkIntegrity_eq_ok_iff g).mp hchecked).2.2
    have hreach : ∀ i ∈ List.range g.nodes.size, Reachable g.nodes 0 [last] i := fun i hi =>
      ⟨last, List.mem_singleton.mpr rfl, hconnected last hlast i (List.mem_range.mp hi)⟩
    have hall := length_le_reachCount hrange (by simpa [size] using hlast) List.nodup_range hreach
    rw [List.length_range] at hall
    simp only [findable, hentry, hdescend]
    exact hall

/-- What a search brings to its queue: all that the beam on level zero finds from where the descent
ends. -/
def brought (metric : Metric) (g : Graph) (query : Encoded) (k : Nat) : List Neighbor :=
  let found? : Option (List Neighbor) := do
    let entry ← g.entry
    let (node, marks) ← descend metric g.nodes query 0 g.maxLevel entry Visited.empty
    let (found, _) ← searchLevel metric g.nodes query [node]
      (min (max g.config.efSearch k) g.size) 0 marks
    found.mapM (neighborAt g.nodes)
  found?.getD []

theorem brought_eq_pick {k entry last : Nat} {marks marks' : Visited} {found : List Scored}
    (hentry : g.entry = some entry)
    (hdescend : descend metric g.nodes query 0 g.maxLevel entry Visited.empty = some (last, marks))
    (hsearch : searchLevel metric g.nodes query [last] (min (max g.config.efSearch k) g.size) 0
      marks = some (found, marks'))
    (hmeasured : ∀ s ∈ found, s.Measures metric g.nodes query) :
    g.brought metric query k =
      pick (neighbors metric g.nodes query) (found.map Scored.node) := by
  unfold brought
  simp only [hentry, hdescend, hsearch, mapM_neighborAt hmeasured, Option.bind_eq_bind,
    Option.bind_some, Option.getD_some]

/-- A search offers its queue what it brings: different nodes, as many as the beam is wide and can
be found. -/
theorem brought_spec (metric : Metric) (query : Encoded) {k : Nat} (hk : 1 ≤ k)
    (hchecked : g.checkIntegrity = .ok ()) :
    search metric g query k = some ((TopK.empty k).pushAll (g.brought metric query k)) ∧
      (g.brought metric query k).Subperm (neighbors metric g.nodes query) ∧
      (g.brought metric query k).length =
        min (max g.config.efSearch k) (g.findable metric query) := by
  cases hentry : g.entry with
  | none =>
      have hnothing : g.brought metric query k = [] := by simp [brought, hentry]
      rw [hnothing]
      refine ⟨by simp [search, hentry, TopK.pushAll], List.nil_subperm, ?_⟩
      simp [findable, hentry]
  | some entry =>
      obtain ⟨last, marks, found, _, hdescend, -, hlast, hsearch, hfound⟩ :=
        search_runs metric query (min (max g.config.efSearch k) g.size) hchecked hentry
      have hrange := ((checkIntegrity_eq_ok_iff g).mp hchecked).2.2
      have hreach : reachCount g.nodes 0 [last] ≤ g.nodes.size :=
        reachCount_le hrange (by simpa [size] using hlast)
      have hpositions := positions_lt hfound.measured
      have hcount := hfound.count
      rw [brought_eq_pick hentry hdescend hsearch hfound.measured]
      refine ⟨search_eq_some (by omega) hentry hdescend hsearch hfound.measured,
        pick_subperm hfound.distinct hpositions, ?_⟩
      rw [pick_length hpositions, List.length_map, hcount]
      simp only [findable, hentry, hdescend]
      unfold beamWidth size
      omega

/-- A search answers as many neighbours as are asked for and can be found, each a different node of
the graph. -/
theorem search_count (metric : Metric) (query : Encoded) {k : Nat} (hk : 1 ≤ k)
    (hchecked : g.checkIntegrity = .ok ()) :
    ∃ q, search metric g query k = some q ∧
      q.toSorted.Subperm (neighbors metric g.nodes query) ∧
      q.toSorted.length = min k (g.findable metric query) := by
  obtain ⟨hsearch, hpart, hcount⟩ := brought_spec metric query hk hchecked
  have hretains := TopK.offered_retains k (g.brought metric query k)
  refine ⟨_, hsearch, hretains.toSorted_subperm.trans hpart, ?_⟩
  rw [TopK.offered_length, hcount]
  omega

end Vicinity.Graph
