import Vicinity.Proofs.Graph.Beam

/-!
The result of a search on one level, whatever the links look like as long as they stay inside the
node table: different reachable nodes in order, as many of them as the beam and the reachable set
allow, with nothing better next to them.
-/

namespace Vicinity.Graph

def beamWidth (nodes : Array Node) (ef : Nat) : Nat := max 1 (min ef nodes.size)

/-- What a search on a level finds. -/
structure Found (metric : Metric) (nodes : Array Node) (query : Encoded) (entries : List Nat)
    (ef level : Nat) (found : List Scored) : Prop where
  ordered : found.Pairwise fun s t => s.rank ≤ t.rank
  measured : ∀ s ∈ found, s.Measures metric nodes query
  distinct : (found.map Scored.node).Nodup
  reached : ∀ s ∈ found, Reachable nodes level entries s.node
  count : found.length = min (beamWidth nodes ef) (reachCount nodes level entries)
  optimal : ∀ t : Scored, t.Measures metric nodes query →
    (t.node ∈ entries ∨ ∃ s ∈ found, Linked nodes level s.node t.node) →
    t ∈ found ∨ (found.length = beamWidth nodes ef ∧
      ∀ s ∈ found, s.distance.rankKey ≤ t.distance.rankKey)

section Search

variable {metric : Metric} {nodes : Array Node} {query : Encoded} {entries : List Nat}
  {ef level : Nat} {found : List Scored}

open Beam in
/-- A node that a search keeps in the end is one that it has gone on from. -/
theorem kept_done {width : Nat} {done : List Nat} {b : Beam}
    (h : Sound metric nodes query width level entries done b)
    (hend : ∀ s rest, b.pending = s :: rest → b.isSettled width s = true)
    {s : Scored} (hs : s ∈ b.kept) : s.node ∈ done := by
  rcases h.planned s hs with hmem | hmem
  · cases hpending : b.pending with
    | nil => simp [hpending] at hmem
    | cons head rest =>
        have hsettled := hend head rest hpending
        simp only [isSettled, Bool.and_eq_true, decide_eq_true_eq] at hsettled
        have hordered := h.pendingOrdered
        rw [hpending] at hordered hmem
        have hhead : head.distance.rankKey ≤ s.distance.rankKey := by
          rcases List.mem_cons.mp hmem with rfl | hmem
          · exact le_refl _
          · exact Scored.rankKey_le_of_rank_le ((List.pairwise_cons.mp hordered).1 s hmem)
        have hworst := rankKey_le_worstKey h.keptOrdered hs
        omega
  · exact hmem

open Beam in
/-- A search that ends with room in its beam has seen every reachable node. -/
theorem seen_of_reachable {width : Nat} {done : List Nat} {b : Beam}
    (h : Sound metric nodes query width level entries done b)
    (hfollowed : FollowedUp nodes level done b) (hentries : ∀ e ∈ entries, b.seen.Seen e)
    (hend : ∀ s rest, b.pending = s :: rest → b.isSettled width s = true)
    (hroom : b.kept.length < width) {i : Nat} (hi : Reachable nodes level entries i) :
    b.seen.Seen i := by
  apply hi.closed hentries
  intro a c ha hlink
  obtain ⟨s, rfl, hs⟩ := exists_measures metric query (linked_lt hlink)
  -- A beam with room has turned nothing away, so it went on from all that it saw.
  rcases h.weighed s hs ha with hkept | hcloses
  · exact hfollowed s.node (kept_done h hend hkept) c hlink
  · exact absurd hcloses.1 (by omega)

/-- A search from nodes of the table comes to an end without looking past it, and finds what it
should, whatever marks it is handed by the searches before. -/
theorem searchLevel_found (metric : Metric) (query : Encoded) (ef level : Nat)
    (hrange : LinksInRange nodes) (hentries : ∀ e ∈ entries, e < nodes.size) {marks : Visited}
    (hmarks : marks.Dated) :
    ∃ found marks', searchLevel metric nodes query entries ef level marks = some (found, marks') ∧
      marks'.Dated ∧ Found metric nodes query entries ef level found := by
  have hbegin : ∀ e ∈ entries, e < nodes.size ∧ Reachable nodes level entries e :=
    fun e he => ⟨hentries e he, Reachable.entry he⟩
  have hstart : Beam.Sound metric nodes query (beamWidth nodes ef) level entries []
      (Beam.start (marks.reset nodes.size)) := Beam.start_sound hmarks
  obtain ⟨b₁, hvisits, hsound₁, hvisited⟩ := Beam.visitAll_sound (fun _ _ => true) hstart
    (fun _ _ _ hfalse => absurd hfalse (by decide)) entries hbegin
  obtain ⟨b, done, hexpand, hsound, hfollowed, hmono, hend⟩ :=
    Beam.expand_sound hrange hentries nodes.size hsound₁ (fun i hi => by simp at hi) (by simp)
  have hseen : ∀ e ∈ entries, b.seen.Seen e := fun e he => hmono e ((hvisited e).mpr (Or.inr he))
  have hdistinct : (b.kept.reverse.map Scored.node).Nodup := by
    rw [List.map_reverse, List.nodup_reverse]
    exact hsound.keptDistinct
  have hreached : ∀ s ∈ b.kept.reverse, Reachable nodes level entries s.node := fun s hs =>
    hsound.reached s.node (hsound.keptSeen s (List.mem_reverse.mp hs)).2
  refine ⟨b.kept.reverse, b.seen, ?_, hsound.dated, ?_⟩
  · simp only [beamWidth] at hvisits hexpand
    simp only [searchLevel, hvisits, hexpand, Option.bind_eq_bind, Option.bind_some]
    rfl
  · refine
      { ordered := List.pairwise_reverse.mpr hsound.keptOrdered
        measured := fun s hs => (hsound.keptSeen s (List.mem_reverse.mp hs)).1
        distinct := hdistinct, reached := hreached, count := ?_, optimal := ?_ }
    · have hfew : b.kept.reverse.length ≤ reachCount nodes level entries := by
        have hle := length_le_reachCount hrange hentries hdistinct (by
          intro i hi
          obtain ⟨s, hs, rfl⟩ := List.mem_map.mp hi
          exact hreached s hs)
        rwa [List.length_map] at hle
      have hnarrow := hsound.narrow
      rw [List.length_reverse] at hfew ⊢
      by_cases hroom : b.kept.length < beamWidth nodes ef
      · have hall : reachCount nodes level entries ≤ (b.kept.map Scored.node).length := by
          apply reachCount_le_length
          intro i hi
          obtain ⟨s, rfl, hs⟩ := exists_measures metric query (hi.lt hrange hentries)
          have hsSeen := seen_of_reachable hsound hfollowed hseen hend hroom hi
          rcases hsound.weighed s hs hsSeen with hkept | hcloses
          · exact List.mem_map_of_mem hkept
          · exact absurd hcloses.1 (by omega)
        rw [List.length_map] at hall
        omega
      · omega
    · intro t ht hnear
      have htSeen : b.seen.Seen t.node := by
        rcases hnear with he | ⟨s, hs, hlink⟩
        · exact hseen t.node he
        · exact hfollowed s.node (kept_done hsound hend (List.mem_reverse.mp hs)) t.node hlink
      have hnarrow := hsound.narrow
      rcases hsound.weighed t ht htSeen with hkept | ⟨hwide, hnear⟩
      · exact Or.inl (List.mem_reverse.mpr hkept)
      · refine Or.inr ⟨?_, fun s hs => hnear s (List.mem_reverse.mp hs)⟩
        rw [List.length_reverse]
        omega

theorem Found.nonempty (h : Found metric nodes query entries ef level found)
    (hrange : LinksInRange nodes) (hentries : ∀ e ∈ entries, e < nodes.size)
    (hsome : entries ≠ []) : found ≠ [] := by
  obtain ⟨e, rest, rfl⟩ := List.exists_cons_of_ne_nil hsome
  have hone : [e].length ≤ reachCount nodes level (e :: rest) :=
    length_le_reachCount hrange hentries (List.nodup_singleton e) (by
      intro i hi
      exact Reachable.entry (List.mem_cons.mpr (Or.inl (List.mem_singleton.mp hi))))
  have hcount := h.count
  have hwidth : 1 ≤ beamWidth nodes ef := le_max_left 1 _
  simp only [List.length_singleton] at hone
  rintro rfl
  rw [List.length_nil] at hcount
  omega

/-- A beam that is wide enough finds every reachable node. -/
theorem Found.complete (h : Found metric nodes query entries ef level found)
    (hrange : LinksInRange nodes) (hentries : ∀ e ∈ entries, e < nodes.size)
    (hwide : reachCount nodes level entries ≤ beamWidth nodes ef) {i : Nat}
    (hi : Reachable nodes level entries i) : i ∈ found.map Scored.node := by
  refine mem_of_reachCount_le hrange hentries h.distinct ?_ ?_ hi
  · intro j hj
    obtain ⟨s, hs, rfl⟩ := List.mem_map.mp hj
    exact h.reached s hs
  · rw [List.length_map, h.count]
    omega

/-- Different nodes in order of rank stand in the strict order in which ranks are compared. -/
theorem Found.before (h : Found metric nodes query entries ef level found) :
    found.Pairwise fun s t => s.before t = true := by
  refine List.Pairwise.imp₂ ?_ h.ordered (List.pairwise_map.mp h.distinct)
  intro s t hle hnode
  refine (Scored.before_iff s t).mpr (lt_of_le_of_ne hle fun hrank => hnode ?_)
  exact congrArg (fun rank => (ofLex rank).2) hrank

/-- A search on one level comes to an end and finds different nodes, the nearest first, each at its
own distance. All of them can be reached from the given nodes, and there are as many as the beam
and the reachable nodes allow; a beam that is wide enough for all reachable nodes finds them all.
It does not matter which searches have left their marks before. -/
theorem searchLevel_covers (metric : Metric) (query : Encoded) (ef level : Nat)
    (hrange : LinksInRange nodes) (hentries : ∀ e ∈ entries, e < nodes.size) {marks : Visited}
    (hmarks : marks.Dated) :
    ∃ found marks', searchLevel metric nodes query entries ef level marks = some (found, marks') ∧
      marks'.Dated ∧
      found.Pairwise (fun s t => s.before t = true) ∧
      (found.map Scored.node).Nodup ∧
      (∀ s ∈ found, s.Measures metric nodes query ∧ Reachable nodes level entries s.node) ∧
      found.length = min (max 1 (min ef nodes.size)) (reachCount nodes level entries) ∧
      (reachCount nodes level entries ≤ max 1 (min ef nodes.size) →
        ∀ i, Reachable nodes level entries i → i ∈ found.map Scored.node) := by
  obtain ⟨found, marks', hsearch, hmarks', hfound⟩ :=
    searchLevel_found metric query ef level hrange hentries hmarks
  exact ⟨found, marks', hsearch, hmarks', hfound.before, hfound.distinct,
    fun s hs => ⟨hfound.measured s hs, hfound.reached s hs⟩, hfound.count,
    fun hwide i hi => hfound.complete hrange hentries hwide hi⟩

/-- A ring of three nodes, searched from one of them that is given twice. -/
theorem searchLevel_covers_ring :
    let node (id : Int) (next : Nat) : Node := ⟨id, .sparse [1], [[next]]⟩
    let nodes := #[node 7 1, node 8 2, node 9 0]
    ∃ found marks', searchLevel (fun _ _ => 1) nodes (.sparse [2]) [1, 1] 2 0 Visited.empty =
        some (found, marks') ∧ marks'.Dated ∧
      found.Pairwise (fun s t => s.before t = true) ∧
      (found.map Scored.node).Nodup ∧
      (∀ s ∈ found, s.Measures (fun _ _ => 1) nodes (.sparse [2]) ∧
        Reachable nodes 0 [1, 1] s.node) ∧
      found.length = min 2 (reachCount nodes 0 [1, 1]) ∧
      (reachCount nodes 0 [1, 1] ≤ 2 →
        ∀ i, Reachable nodes 0 [1, 1] i → i ∈ found.map Scored.node) := by
  intro node nodes
  have hrange : LinksInRange nodes :=
    (firstLooseNode_eq_none_iff ⟨GraphConfig.standard, nodes, some 0, 0⟩).mp (by rfl)
  exact searchLevel_covers (fun _ _ => 1) (.sparse [2]) 2 0 hrange (by decide) Visited.empty_dated

/-- Coming nearer level by level stays inside the node table, and keeps whatever the links of the
levels passed keep. -/
theorem descend_stays (metric : Metric) (query : Encoded) (hrange : LinksInRange nodes)
    {P : Nat → Prop} (floor steps : Nat) {node : Nat} (hnode : node < nodes.size) (hP : P node)
    (hlinks : ∀ level, floor < level → ∀ a b, P a → Linked nodes level a b → P b)
    {marks : Visited} (hmarks : marks.Dated) :
    ∃ last marks', descend metric nodes query floor steps node marks = some (last, marks') ∧
      marks'.Dated ∧ last < nodes.size ∧ P last := by
  induction steps generalizing node marks with
  | zero => exact ⟨node, marks, rfl, hmarks, hnode, hP⟩
  | succ steps ih =>
      have hstart : ∀ e ∈ [node], e < nodes.size := by simpa using hnode
      obtain ⟨found, marks₁, hsearch, hmarks₁, hfound⟩ :=
        searchLevel_found metric query 1 (floor + steps + 1) hrange hstart hmarks
      have hnext : nearestOr node found < nodes.size ∧ P (nearestOr node found) := by
        cases found with
        | nil => exact ⟨hnode, hP⟩
        | cons s rest =>
            have hreached := hfound.reached s List.mem_cons_self
            exact ⟨hreached.lt hrange hstart, hreached.closed (by simpa using hP)
              (hlinks (floor + steps + 1) (by omega))⟩
      obtain ⟨last, marks₂, hlast, hmarks₂, hlt, hPlast⟩ := ih hnext.1 hnext.2 hmarks₁
      refine ⟨last, marks₂, ?_, hmarks₂, hlt, hPlast⟩
      rw [descend, hsearch, Option.bind_eq_bind, Option.bind_some]
      exact hlast

end Search

end Vicinity.Graph
