import Vicinity.Graph.Select
import Mathlib.Data.List.Nodup
import Mathlib.Data.List.Perm.Subperm

/-!
What the choice of links guarantees for different candidates, whatever the distances are: the
links are different candidates, and as many as there is room for. Where enough near candidates come
before all others, it may keep to them.
-/

namespace Vicinity.Graph

/-- The diverse candidates stand behind those taken before, in their order, within the limit. -/
theorem takeDiverse_eq_append (gap : Nat → Nat → Single) (m : Nat) (taken : List Nat)
    (candidates : List Scored) :
    ∃ more, takeDiverse gap m taken candidates = taken ++ more ∧
      more.Sublist (candidates.map Scored.node) ∧
      (taken ++ more).length ≤ max m taken.length := by
  induction candidates generalizing taken with
  | nil =>
      refine ⟨[], by simp [takeDiverse], List.Sublist.refl _, ?_⟩
      rw [List.append_nil]
      exact Nat.le_max_right m taken.length
  | cons c rest ih =>
      unfold takeDiverse
      split
      · refine ⟨[], by simp, List.nil_sublist _, ?_⟩
        rw [List.append_nil]
        exact Nat.le_max_right m taken.length
      · rename_i hroom
        split
        · obtain ⟨more, heq, hsub, hlength⟩ := ih (taken ++ [c.node])
          refine ⟨c.node :: more, by simpa using heq, hsub.cons_cons c.node, ?_⟩
          simp only [List.length_append, List.length_cons, List.length_nil] at hlength ⊢
          omega
        · obtain ⟨more, heq, hsub, hlength⟩ := ih taken
          exact ⟨more, heq, hsub.cons c.node, hlength⟩

theorem choosingOrder_perm (candidates : List Scored) :
    (choosingOrder candidates).Perm candidates :=
  List.mergeSort_perm _ _

/-- What was taken from a list of different nodes and what is left of it make it up. -/
theorem append_filter_perm {taken all : List Nat} (hdistinct : all.Nodup)
    (htaken : taken.Sublist all) :
    (taken ++ all.filter fun n => !taken.contains n).Perm all := by
  refine (List.perm_ext_iff_of_nodup ?_ hdistinct).mpr fun i => ?_
  · refine List.nodup_append.mpr ⟨hdistinct.sublist htaken, hdistinct.filter _, ?_⟩
    rintro i hi j hj rfl
    simp [hi] at hj
  · by_cases hi : i ∈ taken
    · simp [hi, htaken.subset hi]
    · simp [hi]

section Choice

variable {metric : Metric} {nodes : Array Node} {candidates : List Scored} {m : Nat}

theorem between_of_nodes (metric : Metric) {v w : Node} {a b : Nat} (ha : nodes[a]? = some v)
    (hb : nodes[b]? = some w) : between metric nodes a b = metric v.vector w.vector := by
  rw [between, ha, hb]

/-- The links are the front of some order of the candidates. -/
theorem selectLinks_eq_append (metric : Metric) (nodes : Array Node) (m : Nat)
    (hdistinct : (candidates.map Scored.node).Nodup) :
    ∃ taken others, selectLinks metric nodes candidates m =
        taken ++ others.take (m - taken.length) ∧
      (taken ++ others).Perm (candidates.map Scored.node) ∧ taken.length ≤ m := by
  obtain ⟨taken, heq, hsub, hlength⟩ :=
    takeDiverse_eq_append (between metric nodes) m [] (choosingOrder candidates)
  have hsorted := (choosingOrder_perm candidates).map Scored.node
  have hnodup := hsorted.nodup_iff.mpr hdistinct
  rw [List.nil_append] at heq hlength
  refine ⟨taken, ((choosingOrder candidates).map Scored.node).filter fun n => !taken.contains n,
    ?_, ?_, by simpa using hlength⟩
  · rw [selectLinks, heq]
  · exact (append_filter_perm hnodup hsub).trans hsorted

theorem selectLinks_subperm (metric : Metric) (nodes : Array Node) (m : Nat)
    (hdistinct : (candidates.map Scored.node).Nodup) :
    (selectLinks metric nodes candidates m).Subperm (candidates.map Scored.node) := by
  obtain ⟨taken, others, heq, hperm, _⟩ := selectLinks_eq_append metric nodes m hdistinct
  rw [heq]
  exact ((List.take_sublist _ others).append_left taken).subperm.trans hperm.subperm

theorem selectLinks_nodup (metric : Metric) (nodes : Array Node) (m : Nat)
    (hdistinct : (candidates.map Scored.node).Nodup) :
    (selectLinks metric nodes candidates m).Nodup := by
  obtain ⟨l, hperm, hsub⟩ := selectLinks_subperm metric nodes m hdistinct
  exact hperm.nodup_iff.mp (hdistinct.sublist hsub)

theorem selectLinks_subset (metric : Metric) (nodes : Array Node) (m : Nat)
    (hdistinct : (candidates.map Scored.node).Nodup) :
    selectLinks metric nodes candidates m ⊆ candidates.map Scored.node :=
  (selectLinks_subperm metric nodes m hdistinct).subset

/-- No room is left unused while there are candidates. -/
theorem selectLinks_length (metric : Metric) (nodes : Array Node) (m : Nat)
    (hdistinct : (candidates.map Scored.node).Nodup) :
    (selectLinks metric nodes candidates m).length = min m candidates.length := by
  obtain ⟨taken, others, heq, hperm, hlength⟩ := selectLinks_eq_append metric nodes m hdistinct
  have hsum := hperm.length_eq
  rw [List.length_append, List.length_map] at hsum
  rw [heq, List.length_append, List.length_take]
  omega

end Choice

section Near

variable {gap : Nat → Nat → Single} {m : Nat} {taken : List Nat}

theorem takeDiverse_full (h : m ≤ taken.length) (candidates : List Scored) :
    takeDiverse gap m taken candidates = taken := by
  cases candidates with
  | nil => rfl
  | cons c rest => rw [takeDiverse, if_pos h]

theorem takeDiverse_append (front back : List Scored) :
    takeDiverse gap m taken (front ++ back) =
      takeDiverse gap m (takeDiverse gap m taken front) back := by
  induction front generalizing taken with
  | nil => rfl
  | cons c rest ih =>
      rw [List.cons_append, takeDiverse, takeDiverse]
      split
      · rename_i hfull
        rw [takeDiverse_full hfull]
      · split
        · exact ih
        · exact ih

/-- Candidates that are no farther than from each other are all taken while there is room. -/
theorem takeDiverse_of_close {candidates : List Scored}
    (hclose : ∀ c ∈ candidates, ∀ t ∈ taken ++ candidates.map Scored.node,
      c.distance ≤ gap c.node t) :
    takeDiverse gap m taken candidates =
      taken ++ (candidates.map Scored.node).take (m - taken.length) := by
  induction candidates generalizing taken with
  | nil => simp [takeDiverse]
  | cons c rest ih =>
      rw [takeDiverse]
      split
      · rename_i hfull
        rw [Nat.sub_eq_zero_of_le hfull, List.take_zero, List.append_nil]
      · rename_i hroom
        have hc : (taken.all fun t => decide (c.distance ≤ gap c.node t)) = true := by
          rw [List.all_eq_true]
          intro t ht
          exact decide_eq_true (hclose c List.mem_cons_self t (List.mem_append_left _ ht))
        rw [if_pos hc, ih, List.append_assoc]
        · obtain ⟨room, hroom'⟩ : ∃ room, m - taken.length = room + 1 :=
            ⟨m - taken.length - 1, by omega⟩
          have hless : m - (taken ++ [c.node]).length = room := by
            rw [List.length_append, List.length_singleton]
            omega
          rw [hless, hroom']
          rfl
        · intro d hd t ht
          refine hclose d (List.mem_cons_of_mem c hd) t ?_
          simpa using ht

/-- Candidates that are nearer to one taken before are all left out. -/
theorem takeDiverse_of_crossed {candidates : List Scored}
    (hcrossed : ∀ c ∈ candidates, ∃ t ∈ taken, ¬ c.distance ≤ gap c.node t) :
    takeDiverse gap m taken candidates = taken := by
  induction candidates with
  | nil => rfl
  | cons c rest ih =>
      rw [takeDiverse]
      split
      · rfl
      · obtain ⟨t, ht, hgap⟩ := hcrossed c List.mem_cons_self
        have hc : ¬ (taken.all fun t => decide (c.distance ≤ gap c.node t)) = true := by
          rw [List.all_eq_true]
          intro hall
          exact hgap (of_decide_eq_true (hall t ht))
        rw [if_neg hc]
        exact ih fun d hd => hcrossed d (List.mem_cons_of_mem c hd)

theorem choosingOrder_sorted (candidates : List Scored) :
    (choosingOrder candidates).Pairwise fun s t => s.chosenBefore t = true := by
  refine List.pairwise_mergeSort ?_ ?_ candidates
  · intro s t u hst htu
    simp only [Scored.chosenBefore, Bool.or_eq_true, Bool.and_eq_true, decide_eq_true_eq,
      beq_iff_eq] at hst htu ⊢
    omega
  · intro s t
    simp only [Scored.chosenBefore, Bool.or_eq_true, Bool.and_eq_true, decide_eq_true_eq,
      beq_iff_eq]
    omega

/-- Candidates at the back are not taken if those at the front fill the room, or if each of them is
nearer to the front. -/
theorem takeDiverse_front {front back : List Scored} (henough : m ≤ front.length)
    (hchoice : (∀ s ∈ front, ∀ t ∈ front, s.distance ≤ gap s.node t.node) ∨
      (∀ s ∈ back, ∀ t ∈ front, ¬ s.distance ≤ gap s.node t.node)) :
    takeDiverse gap m [] (front ++ back) = takeDiverse gap m [] front := by
  rw [takeDiverse_append]
  rcases hchoice with hclose | hcrossed
  · refine takeDiverse_full ?_ back
    rw [takeDiverse_of_close, List.nil_append, List.length_take, List.length_map, List.length_nil]
    · omega
    · intro c hc t ht
      obtain ⟨s, hs, rfl⟩ := List.mem_map.mp (by simpa using ht)
      exact hclose c hc s hs
  · cases front with
    | nil =>
        rw [List.length_nil] at henough
        exact takeDiverse_full henough back
    | cons first rest =>
        by_cases hm : m = 0
        · exact takeDiverse_full (by omega) back
        · -- The first of all is taken, and it keeps every one at the back out.
          obtain ⟨more, htaken, -, -⟩ := takeDiverse_eq_append gap m [first.node] rest
          have hfirst : takeDiverse gap m [] (first :: rest) = [first.node] ++ more := by
            rw [takeDiverse, if_neg (by rw [List.length_nil]; omega), if_pos (by rfl), ← htaken,
              List.nil_append]
          rw [hfirst]
          refine takeDiverse_of_crossed fun c hc => ⟨first.node, by simp, ?_⟩
          exact hcrossed c hc first List.mem_cons_self

/-- A list in which nothing that has a property stands behind something that has it not. -/
theorem filter_append_filter_of_pairwise {α : Type} {p : α → Bool} {l : List α}
    (h : l.Pairwise fun a b => p b = true → p a = true) :
    l.filter p ++ l.filter (!p ·) = l := by
  induction l with
  | nil => rfl
  | cons a rest ih =>
      obtain ⟨hfirst, hrest⟩ := List.pairwise_cons.mp h
      cases ha : p a with
      | true => simpa [ha] using ih hrest
      | false =>
          have hnone : ∀ b ∈ rest, p b = false := by
            intro b hb
            cases hpb : p b with
            | false => rfl
            | true => simp [hfirst b hb hpb] at ha
          have hleft : rest.filter p = [] :=
            List.filter_eq_nil_iff.mpr fun b hb => by simp [hnone b hb]
          have hright : rest.filter (!p ·) = rest :=
            List.filter_eq_self.mpr fun b hb => by simp [hnone b hb]
          simp [ha, hleft, hright]

variable {metric : Metric} {nodes : Array Node} {candidates : List Scored}

/-- Near candidates in the order of choosing stand before the others. -/
theorem choosingOrder_near (near : Scored → Bool)
    (hbefore : ∀ s ∈ candidates, ∀ t ∈ candidates, near s = true → near t = false →
      s.distance.strictKey < t.distance.strictKey) :
    (choosingOrder candidates).filter near ++ (choosingOrder candidates).filter (!near ·) =
      choosingOrder candidates := by
  have hperm := choosingOrder_perm candidates
  refine filter_append_filter_of_pairwise ((choosingOrder_sorted candidates).imp_of_mem ?_)
  intro s t hs ht hst hnear
  cases hnot : near s with
  | true => rfl
  | false =>
      have hlt := hbefore t (hperm.mem_iff.mp ht) s (hperm.mem_iff.mp hs) hnear hnot
      simp only [Scored.chosenBefore, Bool.or_eq_true, Bool.and_eq_true, decide_eq_true_eq,
        beq_iff_eq] at hst
      omega

/-- If the diverse ones among candidates come from the front and the front is long enough, then so
do those that fill up the room. -/
theorem mem_front_of_chosen {front back : List Scored}
    (hdistinct : ((front ++ back).map Scored.node).Nodup) (htaken : taken.Sublist
      (front.map Scored.node)) (henough : m ≤ front.length) {i : Nat}
    (hi : i ∈ taken ++ (((front ++ back).map Scored.node).filter fun n => !taken.contains n).take
      (m - taken.length)) :
    i ∈ front.map Scored.node := by
  rw [List.map_append] at hdistinct hi
  have hperm := append_filter_perm (List.nodup_append.mp hdistinct).1 htaken
  have hlength := hperm.length_eq
  rw [List.length_append, List.length_map] at hlength
  rw [List.filter_append, List.take_append_of_le_length (by omega)] at hi
  apply hperm.subset
  rcases List.mem_append.mp hi with hi | hi
  · exact List.mem_append_left _ hi
  · exact List.mem_append_right _ (List.mem_of_mem_take hi)

/-- A choice takes nothing but near candidates if there are enough of them and they are chosen
first: either nothing keeps near ones from being taken, or something near keeps every other from
it. -/
theorem selectLinks_near (near : Scored → Bool) (hdistinct : (candidates.map Scored.node).Nodup)
    (hbefore : ∀ s ∈ candidates, ∀ t ∈ candidates, near s = true → near t = false →
      s.distance.strictKey < t.distance.strictKey)
    (henough : m ≤ (candidates.filter near).length)
    (hchoice : (∀ s ∈ candidates, near s = true → ∀ t ∈ candidates, near t = true →
        s.distance ≤ between metric nodes s.node t.node) ∨
      (∀ s ∈ candidates, near s = false → ∀ t ∈ candidates, near t = true →
        ¬ s.distance ≤ between metric nodes s.node t.node))
    {i : Nat} (hi : i ∈ selectLinks metric nodes candidates m) :
    ∃ s ∈ candidates, near s = true ∧ s.node = i := by
  have hperm := choosingOrder_perm candidates
  have hsplit := choosingOrder_near near hbefore
  have hmem : ∀ s, s ∈ choosingOrder candidates ↔ s ∈ candidates := fun _ => hperm.mem_iff
  have hnodup := ((hperm.map Scored.node).nodup_iff).mpr hdistinct
  rw [← (hperm.filter near).length_eq] at henough
  have hfront : ∀ s ∈ (choosingOrder candidates).filter near, s ∈ candidates ∧ near s = true := by
    intro s hs
    rw [List.mem_filter, hmem] at hs
    exact hs
  have hback : ∀ s ∈ (choosingOrder candidates).filter (!near ·),
      s ∈ candidates ∧ near s = false := by
    intro s hs
    rw [List.mem_filter, hmem] at hs
    exact ⟨hs.1, by simpa using hs.2⟩
  have htaken : takeDiverse (between metric nodes) m [] ((choosingOrder candidates).filter near ++
      (choosingOrder candidates).filter (!near ·)) =
      takeDiverse (between metric nodes) m [] ((choosingOrder candidates).filter near) := by
    refine takeDiverse_front henough
      (hchoice.imp (fun hclose s hs t ht => ?_) (fun hcrossed s hs t ht => ?_))
    · exact hclose s (hfront s hs).1 (hfront s hs).2 t (hfront t ht).1 (hfront t ht).2
    · exact hcrossed s (hback s hs).1 (hback s hs).2 t (hfront t ht).1 (hfront t ht).2
  obtain ⟨taken, heq, hsub, -⟩ := takeDiverse_eq_append (between metric nodes) m []
    ((choosingOrder candidates).filter near)
  rw [heq, List.nil_append] at htaken
  unfold selectLinks at hi
  dsimp only at hi
  rw [← hsplit] at hi hnodup
  rw [htaken] at hi
  obtain ⟨s, hs, rfl⟩ := List.mem_map.mp (mem_front_of_chosen hnodup hsub henough hi)
  exact ⟨s, (hfront s hs).1, (hfront s hs).2, rfl⟩

end Near

end Vicinity.Graph
