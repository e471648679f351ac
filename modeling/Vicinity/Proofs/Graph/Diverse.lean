import Vicinity.Proofs.Graph.Select
import Vicinity.Proofs.Graph.Sizes

/-!
Which candidates become links, whatever the distances between them. In the order of choosing, a
candidate is diverse if it is no farther from the base than from every diverse one before it. The
links are the first of the diverse candidates and then of the others. They do not depend on how the
candidates were listed, because different candidates are never tied in the order of choosing.
-/

namespace Vicinity.Graph

/-- The candidates kept and, in order, those no farther from the base than from every one kept
before. -/
def keepDiverse (gap : Nat → Nat → Single) : List Scored → List Scored → List Scored
  | kept, [] => kept
  | kept, c :: rest =>
    if kept.all fun k => decide (c.distance ≤ gap c.node k.node) then
      keepDiverse gap (kept ++ [c]) rest
    else keepDiverse gap kept rest

/-- The diverse ones among candidates in order. -/
def diverse (gap : Nat → Nat → Single) (candidates : List Scored) : List Scored :=
  keepDiverse gap [] candidates

/-- The candidates that are not kept. -/
def leftover (kept candidates : List Scored) : List Scored :=
  candidates.filter fun c => !(kept.map Scored.node).contains c.node

section Diverse

variable {gap : Nat → Nat → Single} {kept candidates : List Scored} {c : Scored}

theorem keepDiverse_eq_append (gap : Nat → Nat → Single) (kept candidates : List Scored) :
    ∃ more, keepDiverse gap kept candidates = kept ++ more ∧ more.Sublist candidates := by
  induction candidates generalizing kept with
  | nil => exact ⟨[], (List.append_nil kept).symm, List.Sublist.refl []⟩
  | cons c rest ih =>
      rw [keepDiverse]
      split
      · obtain ⟨more, heq, hsub⟩ := ih (kept ++ [c])
        exact ⟨c :: more, by rw [heq, List.append_assoc]; rfl, hsub.cons_cons c⟩
      · obtain ⟨more, heq, hsub⟩ := ih kept
        exact ⟨more, heq, hsub.cons c⟩

theorem diverse_sublist (gap : Nat → Nat → Single) (candidates : List Scored) :
    (diverse gap candidates).Sublist candidates := by
  obtain ⟨more, heq, hsub⟩ := keepDiverse_eq_append gap [] candidates
  rw [diverse, heq, List.nil_append]
  exact hsub

theorem keepDiverse_append (kept front back : List Scored) :
    keepDiverse gap kept (front ++ back) = keepDiverse gap (keepDiverse gap kept front) back := by
  induction front generalizing kept with
  | nil => rfl
  | cons c rest ih =>
      rw [List.cons_append, keepDiverse, keepDiverse]
      split
      · exact ih (kept ++ [c])
      · exact ih kept

/-- A candidate is diverse if it is no farther from the base than from the diverse ones before. -/
theorem mem_diverse_iff {front back : List Scored}
    (hfront : c ∉ front) (hback : c ∉ back) :
    c ∈ diverse gap (front ++ c :: back) ↔
      ∀ k ∈ diverse gap front, c.distance ≤ gap c.node k.node := by
  have hbefore : c ∉ diverse gap front := fun h => hfront ((diverse_sublist gap front).subset h)
  rw [diverse, keepDiverse_append, ← diverse, keepDiverse]
  split
  · rename_i hall
    obtain ⟨more, heq, -⟩ := keepDiverse_eq_append gap (diverse gap front ++ [c]) back
    rw [heq]
    refine ⟨fun _ k hk => ?_, fun _ => by simp⟩
    exact of_decide_eq_true (List.all_eq_true.mp hall k hk)
  · rename_i hnear
    obtain ⟨more, heq, hsub⟩ := keepDiverse_eq_append gap (diverse gap front) back
    rw [heq]
    constructor
    · intro h
      rcases List.mem_append.mp h with h | h
      · exact absurd h hbefore
      · exact absurd (hsub.subset h) hback
    · intro h
      refine absurd (List.all_eq_true.mpr fun k hk => ?_) hnear
      exact decide_eq_true (h k hk)

/-- The diverse candidates before some place are those among all that stand before it. -/
theorem mem_diverse_front_iff {front back : List Scored} (hdisjoint : front.Disjoint back)
    {k : Scored} :
    k ∈ diverse gap front ↔ k ∈ diverse gap (front ++ back) ∧ k ∈ front := by
  obtain ⟨more, heq, hsub⟩ := keepDiverse_eq_append gap (diverse gap front) back
  have hall : diverse gap (front ++ back) = diverse gap front ++ more := by
    rw [diverse, keepDiverse_append, ← diverse, heq]
  rw [hall, List.mem_append]
  constructor
  · intro h
    exact ⟨.inl h, (diverse_sublist gap front).subset h⟩
  · rintro ⟨h | h, hfront⟩
    · exact h
    · exact absurd (hsub.subset h) (hdisjoint hfront)

/-- Up to the limit, the candidates taken are the diverse ones. -/
theorem takeDiverse_eq_take (kept : List Scored) {m : Nat} (hroom : kept.length ≤ m)
    (candidates : List Scored) :
    takeDiverse gap m (kept.map Scored.node) candidates =
      ((keepDiverse gap kept candidates).take m).map Scored.node := by
  induction candidates generalizing kept with
  | nil => rw [takeDiverse, keepDiverse, List.take_of_length_le hroom]
  | cons c rest ih =>
      by_cases hfull : m ≤ kept.length
      · obtain ⟨more, heq, -⟩ := keepDiverse_eq_append gap kept (c :: rest)
        rw [takeDiverse_full (by simpa using hfull), heq, List.take_left' (by omega)]
      · have hnode : (kept.map Scored.node).all (fun t => decide (c.distance ≤ gap c.node t)) =
            kept.all fun k => decide (c.distance ≤ gap c.node k.node) := List.all_map
        rw [takeDiverse, if_neg (by simpa using hfull), keepDiverse, hnode]
        split
        · have hone : kept.map Scored.node ++ [c.node] = (kept ++ [c]).map Scored.node := by simp
          rw [hone]
          apply ih (kept ++ [c])
          rw [List.length_append, List.length_singleton]
          omega
        · exact ih kept hroom

end Diverse

section Order

variable {candidates candidates' : List Scored}

/-- Different candidates are never tied in the order of choosing. -/
theorem eq_of_chosenBefore (hdistinct : (candidates.map Scored.node).Nodup) {s t : Scored}
    (hs : s ∈ candidates) (ht : t ∈ candidates) (hst : s.chosenBefore t = true)
    (hts : t.chosenBefore s = true) : s = t := by
  refine List.inj_on_of_nodup_map hdistinct hs ht ?_
  simp only [Scored.chosenBefore, Bool.or_eq_true, Bool.and_eq_true, decide_eq_true_eq,
    beq_iff_eq] at hst hts
  omega

theorem choosingOrder_eq_of_perm (hdistinct : (candidates.map Scored.node).Nodup)
    (hperm : candidates'.Perm candidates) :
    choosingOrder candidates' = choosingOrder candidates := by
  have horders : (choosingOrder candidates').Perm (choosingOrder candidates) :=
    (choosingOrder_perm candidates').trans (hperm.trans (choosingOrder_perm candidates).symm)
  refine List.Perm.eq_of_pairwise ?_ (choosingOrder_sorted candidates')
    (choosingOrder_sorted candidates) horders
  intro s t hs ht hst hts
  apply eq_of_chosenBefore hdistinct ?_ ?_ hst hts
  · exact hperm.subset ((choosingOrder_perm candidates').subset hs)
  · exact (choosingOrder_perm candidates).subset ht

/-- In the order of choosing, every candidate stands strictly before those behind it. -/
theorem choosingOrder_strict (hdistinct : (candidates.map Scored.node).Nodup) :
    (choosingOrder candidates).Pairwise fun s t =>
      s.distance.strictKey < t.distance.strictKey ∨
        s.distance.strictKey = t.distance.strictKey ∧ s.node < t.node := by
  have hnodes := ((choosingOrder_perm candidates).map Scored.node).nodup_iff.mpr hdistinct
  have hnodes : (choosingOrder candidates).Pairwise fun s t => s.node ≠ t.node :=
    List.pairwise_map.mp hnodes
  refine ((choosingOrder_sorted candidates).and hnodes).imp ?_
  rintro s t ⟨hst, hne⟩
  simp only [Scored.chosenBefore, Bool.or_eq_true, Bool.and_eq_true, decide_eq_true_eq,
    beq_iff_eq] at hst
  omega

end Order

section Choice

variable {metric : Metric} {nodes : Array Node} {candidates : List Scored}

/-- The links are the first of the diverse candidates and of the others behind them. -/
theorem selectLinks_eq_take (metric : Metric) (nodes : Array Node) (candidates : List Scored)
    (m : Nat) :
    selectLinks metric nodes candidates m =
      ((diverse (between metric nodes) (choosingOrder candidates) ++
        leftover (diverse (between metric nodes) (choosingOrder candidates))
          (choosingOrder candidates)).take m).map Scored.node := by
  have htaken : takeDiverse (between metric nodes) m [] (choosingOrder candidates) =
      ((diverse (between metric nodes) (choosingOrder candidates)).take m).map Scored.node :=
    takeDiverse_eq_take [] (Nat.zero_le m) (choosingOrder candidates)
  rw [selectLinks, htaken]
  generalize choosingOrder candidates = order
  generalize diverse (between metric nodes) order = kept
  rw [List.take_append, List.map_append, List.length_map, List.length_take]
  by_cases henough : m ≤ kept.length
  · -- The diverse ones fill the room, so nothing else is taken.
    rw [Nat.min_eq_left henough, Nat.sub_self, Nat.sub_eq_zero_of_le henough]
    rfl
  · rw [Nat.min_eq_right (by omega), List.take_of_length_le (by omega : kept.length ≤ m)]
    congr 1
    rw [leftover, List.map_take, List.filter_map]
    rfl

theorem leftover_perm {kept : List Scored} (hdistinct : (candidates.map Scored.node).Nodup)
    (hkept : kept.Sublist candidates) : (kept ++ leftover kept candidates).Perm candidates := by
  have hcandidates := hdistinct.of_map
  have hin : ∀ c ∈ candidates, (kept.map Scored.node).contains c.node = true ↔ c ∈ kept := by
    intro c hc
    rw [List.contains_iff_mem]
    constructor
    · intro h
      obtain ⟨k, hk, hnode⟩ := List.mem_map.mp h
      exact List.inj_on_of_nodup_map hdistinct (hkept.subset hk) hc hnode ▸ hk
    · exact List.mem_map_of_mem
  have hleft : ∀ c, c ∈ leftover kept candidates ↔ c ∈ candidates ∧ c ∉ kept := by
    intro c
    rw [leftover, List.mem_filter, Bool.not_eq_true', ← Bool.not_eq_true]
    exact and_congr_right fun hc => not_congr (hin c hc)
  refine (List.perm_ext_iff_of_nodup ?_ hcandidates).mpr fun c => ?_
  · refine List.nodup_append.mpr ⟨hcandidates.sublist hkept, hcandidates.filter _, ?_⟩
    rintro c hc _ hother rfl
    exact ((hleft c).mp hother).2 hc
  · rw [List.mem_append, hleft]
    constructor
    · rintro (h | h)
      · exact hkept.subset h
      · exact h.1
    · intro h
      by_cases hc : c ∈ kept
      · exact .inl hc
      · exact .inr ⟨h, hc⟩

/-- The first candidate of all is diverse. -/
theorem head?_diverse (gap : Nat → Nat → Single) (order : List Scored) :
    (diverse gap order).head? = order.head? := by
  cases order with
  | nil => rfl
  | cons first rest =>
      obtain ⟨more, heq, -⟩ := keepDiverse_eq_append gap [first] rest
      have hfirst : diverse gap (first :: rest) = [first] ++ more := by
        rw [← heq]
        rfl
      rw [hfirst]
      rfl

theorem head?_append_leftover (gap : Nat → Nat → Single) (order : List Scored) :
    (diverse gap order ++ leftover (diverse gap order) order).head? = order.head? := by
  rw [List.head?_append, head?_diverse]
  cases order with
  | nil => rfl
  | cons first rest => rfl

/-- Links are chosen whenever there is room for as many as asked for. -/
theorem selectLinks?_eq_ite (metric : Metric) (nodes : Array Node) (candidates : List Scored)
    (m : Nat) :
    selectLinks? metric nodes candidates m =
      if linkBytes * m ≤ LayeredIndex.maxBlock then some (selectLinks metric nodes candidates m)
      else none := by
  split
  · rename_i hroom
    exact selectLinks?_eq hroom candidates
  · rename_i hroom
    exact selectLinks?_eq_none (Nat.not_le.mp hroom) candidates

/-- A choice among different candidates in the graph, whatever the distances: the candidates stand
in the order of their distances, ties by number; the diverse ones are those that are no farther from
the base than from every diverse one before them; and the links are the first `m` of the diverse
ones and then the others. So there are `m` links unless there are fewer candidates, the first
candidate is one of them, and the way in which the candidates are listed does not matter. There is
no result where there is no room for `m` links, even if there are fewer candidates. -/
theorem selectLinks?_chooses (metric : Metric) {nodes : Array Node} {candidates : List Scored}
    (m : Nat) (hdistinct : (candidates.map Scored.node).Nodup)
    (hknown : ∀ c ∈ candidates, c.node < nodes.size) :
    let order := choosingOrder candidates
    let kept := diverse (between metric nodes) order
    let others := leftover kept order
    order.Perm candidates ∧
    (order.Pairwise fun s t => s.distance.strictKey < t.distance.strictKey ∨
      s.distance.strictKey = t.distance.strictKey ∧ s.node < t.node) ∧
    kept.Sublist order ∧
    (∀ front c back, order = front ++ c :: back →
      (c ∈ kept ↔ ∀ k ∈ kept, k ∈ front → ∃ v w, nodes[c.node]? = some v ∧
        nodes[k.node]? = some w ∧ c.distance ≤ metric v.vector w.vector)) ∧
    others.Sublist order ∧ (kept ++ others).Perm candidates ∧
    selectLinks? metric nodes candidates m =
      (if linkBytes * m ≤ LayeredIndex.maxBlock then
        some (((kept ++ others).take m).map Scored.node)
      else none) ∧
    (∀ links, selectLinks? metric nodes candidates m = some links →
      links.length = min m candidates.length ∧ links.Nodup ∧
        links ⊆ candidates.map Scored.node ∧
        (1 ≤ m → links.head? = order.head?.map Scored.node)) ∧
    ∀ candidates', candidates'.Perm candidates →
      selectLinks? metric nodes candidates' m = selectLinks? metric nodes candidates m := by
  intro order kept others
  have hperm : order.Perm candidates := choosingOrder_perm candidates
  have hkept : kept.Sublist order := diverse_sublist _ order
  have hnodes := (hperm.map Scored.node).nodup_iff.mpr hdistinct
  have hchosen : selectLinks metric nodes candidates m =
      ((kept ++ others).take m).map Scored.node := selectLinks_eq_take metric nodes candidates m
  refine ⟨hperm, choosingOrder_strict hdistinct, hkept, ?diverse, List.filter_sublist,
    (leftover_perm hnodes hkept).trans hperm, ?closed, ?links, ?perm⟩
  case diverse =>
    intro front c back hsplit
    have hsome : ∀ s ∈ order, ∃ v, nodes[s.node]? = some v := fun s hs =>
      ⟨_, Array.getElem?_eq_getElem (hknown s (hperm.subset hs))⟩
    have hall : (front ++ c :: back).Nodup := hsplit ▸ hnodes.of_map
    obtain ⟨-, hrest, hdisjoint⟩ := List.nodup_append.mp hall
    have hfront : c ∉ front := fun h => hdisjoint c h c List.mem_cons_self rfl
    have hback : c ∉ back := (List.nodup_cons.mp hrest).1
    have hmem : c ∈ kept ↔ ∀ k ∈ diverse (between metric nodes) front,
        c.distance ≤ between metric nodes c.node k.node := by
      rw [← mem_diverse_iff hfront hback, ← hsplit]
    have hbefore : ∀ k, k ∈ diverse (between metric nodes) front ↔ k ∈ kept ∧ k ∈ front := by
      intro k
      have hdisjoint : front.Disjoint (c :: back) := fun s hs ht => hdisjoint s hs s ht rfl
      rw [mem_diverse_front_iff hdisjoint, ← hsplit]
    obtain ⟨v, hv⟩ := hsome c (by rw [hsplit]; simp)
    rw [hmem]
    constructor
    · intro h k hk hkfront
      obtain ⟨w, hw⟩ := hsome k (hkept.subset hk)
      exact ⟨v, w, hv, hw, between_of_nodes metric hv hw ▸ h k ((hbefore k).mpr ⟨hk, hkfront⟩)⟩
    · intro h k hk
      obtain ⟨hk, hkfront⟩ := (hbefore k).mp hk
      obtain ⟨v, w, hv, hw, hgap⟩ := h k hk hkfront
      rw [between_of_nodes metric hv hw]
      exact hgap
  case closed => rw [selectLinks?_eq_ite, hchosen]
  case links =>
    intro links hlinks
    rw [selectLinks?_eq_ite] at hlinks
    split at hlinks
    · obtain rfl := Option.some.inj hlinks
      refine ⟨selectLinks_length metric nodes m hdistinct,
        selectLinks_nodup metric nodes m hdistinct, selectLinks_subset metric nodes m hdistinct,
        fun hm => ?_⟩
      have hfew : m ≠ 0 := by omega
      rw [hchosen, List.head?_map, List.head?_take, if_neg hfew, head?_append_leftover]
    · cases hlinks
  case perm =>
    intro candidates' hcandidates
    rw [selectLinks?, selectLinks?, selectLinks_eq_take, selectLinks_eq_take,
      choosingOrder_eq_of_perm hdistinct hcandidates]

/-- Three vectors, none of which can be compared with another. -/
def apart : Array Node :=
  #[⟨5, .dense [Single.invalid], [[]]⟩, ⟨-3, .dense [Single.invalid], [[]]⟩,
    ⟨8, .dense [Single.invalid], [[]]⟩]

theorem selectLinks?_chooses_apart :
    let candidates : List Scored := [⟨Single.invalid, 2⟩, ⟨1, 1⟩, ⟨1, 0⟩]
    (candidates.map Scored.node).Nodup ∧ (∀ c ∈ candidates, c.node < apart.size) ∧
      ∃ links, selectLinks? Space.l2.distance apart candidates 2 = some links ∧
        links.length = 2 ∧ links.Nodup ∧
        selectLinks? Space.l2.distance apart candidates.reverse 2 = some links := by
  intro candidates
  have hdistinct : (candidates.map Scored.node).Nodup := by decide
  have hknown : ∀ c ∈ candidates, c.node < apart.size := by decide
  obtain ⟨-, -, -, -, -, -, hclosed, hlinks, hperm⟩ :=
    selectLinks?_chooses Space.l2.distance 2 hdistinct hknown
  rw [if_pos (by decide)] at hclosed
  obtain ⟨hlength, hnodup, -⟩ := hlinks _ hclosed
  exact ⟨hdistinct, hknown, _, hclosed, hlength, hnodup,
    (hperm candidates.reverse candidates.reverse_perm).trans hclosed⟩

/-- One candidate, where there is no room for as many links as there may be. -/
theorem selectLinks?_none_apart :
    let candidates : List Scored := [⟨1, 1⟩]
    (candidates.map Scored.node).Nodup ∧ (∀ c ∈ candidates, c.node < apart.size) ∧
      selectLinks? Space.l2.distance apart candidates (Nat.pow 2 62) = none := by
  refine ⟨by decide, by decide, ?_⟩
  apply selectLinks?_eq_none
  decide

end Choice

end Vicinity.Graph
