import Vicinity.Proofs.Retention

/-!
What a bounded queue answers. A candidate is taken in just where fewer than all places of the queue
are held by candidates that rank no later, so what was pushed before decides on it, whatever the
order. However pushes and pops follow each other, the queue stays ordered and within its capacity,
and so each pop takes out a farthest neighbour and leaves the others.
-/

namespace Vicinity.TopK

/-- A candidate is taken in just where the candidates pushed before that rank no later than it are
fewer than the queue has places. -/
theorem Retains.push_iff {q : TopK} {pushed : List Neighbor} (h : q.Retains pushed)
    (n : Neighbor) :
    (q.push n).1 = true ↔ pushed.countP (fun p => decide (p.rank ≤ n.rank)) < q.capacity := by
  obtain ⟨hordered, hcount, dropped, hperm, hnearest⟩ := h
  have hsplit := hperm.countP_eq fun p => decide (p.rank ≤ n.rank)
  rw [List.countP_append] at hsplit
  rcases push_cases q n with ⟨hroom, hpush⟩ | ⟨worst, rest, -, hkept, hlt, hpush⟩ |
    ⟨hfull, hworst, hpush⟩ <;> rw [hpush]
  · have hroom : q.farthestFirst.length < q.capacity := hroom
    have hfew := List.countP_le_length (p := fun p => decide (p.rank ≤ n.rank)) (l := pushed)
    refine iff_of_true rfl ?_
    omega
  · -- Neither the farthest neighbour kept nor anything given up ranks before the candidate.
    rw [hkept] at hsplit hcount hnearest
    have hrest := List.countP_le_length (p := fun p => decide (p.rank ≤ n.rank)) (l := rest)
    have hnone : dropped.countP (fun p => decide (p.rank ≤ n.rank)) = 0 := by
      apply List.countP_eq_zero.mpr
      intro d hd
      have hle := hnearest worst List.mem_cons_self d hd
      simpa using hlt.trans_le hle
    rw [List.countP_cons_of_neg (by simpa using hlt), hnone] at hsplit
    rw [List.length_cons] at hcount
    refine iff_of_true rfl ?_
    omega
  · have hfull : q.capacity ≤ q.farthestFirst.length := hfull
    refine iff_of_false Bool.false_ne_true ?_
    rcases hworst with hzero | hworst
    · omega
    · have hall : q.farthestFirst.countP (fun p => decide (p.rank ≤ n.rank)) =
          q.farthestFirst.length := by
        apply List.countP_eq_length.mpr
        intro a ha
        cases hkept : q.farthestFirst with
        | nil => simp [hkept] at ha
        | cons worst rest =>
            rw [hkept] at ha hordered
            have hle := hworst worst rest hkept
            rcases List.mem_cons.mp ha with rfl | ha
            · exact decide_eq_true hle
            · exact decide_eq_true (((List.pairwise_cons.mp hordered).1 a ha).trans hle)
      omega

/-- What a queue tells and gives of its farthest neighbour: the distance that it shows, and the
neighbour that it gives out, with all others left in it. -/
structure GivesFarthest (q : TopK) (given : Option Neighbor) (left : TopK) : Prop where
  shown : q.farthest? = given.map Neighbor.distance
  none_iff : given = none ↔ q.size = 0
  farthest : ∀ n ∈ given, ∀ m ∈ q.toSorted, m.rank ≤ n.rank
  others : left.toSorted ++ given.toList = q.toSorted
  capacity : left.capacity = q.capacity

/-- A queue in order and within its capacity. -/
structure Orderly (q : TopK) : Prop where
  ordered : q.farthestFirst.Pairwise fun a b => b.rank ≤ a.rank
  narrow : q.size ≤ q.capacity

theorem Retains.orderly {q : TopK} {pushed : List Neighbor} (h : q.Retains pushed) :
    q.Orderly where
  ordered := h.ordered
  narrow := by
    have hcount := h.count
    unfold size
    omega

namespace Orderly

variable {q : TopK}

theorem pop (h : q.Orderly) : q.GivesFarthest q.pop.1 q.pop.2 := by
  obtain ⟨capacity, farthestFirst⟩ := q
  cases farthestFirst with
  | nil =>
      exact
        { shown := rfl, none_iff := iff_of_true rfl rfl, farthest := by simp [TopK.pop]
          others := rfl, capacity := rfl }
  | cons worst rest =>
      obtain ⟨hworst, -⟩ := List.pairwise_cons.mp h.ordered
      refine
        { shown := rfl, none_iff := by simp [TopK.pop, size], farthest := ?_
          others := by simp [TopK.pop, toSorted], capacity := rfl }
      rintro n ⟨⟩ m hm
      rcases List.mem_cons.mp (List.mem_reverse.mp hm) with rfl | hm
      · exact le_refl _
      · exact hworst m hm

theorem push (h : q.Orderly) (n : Neighbor) : (q.push n).2.Orderly := by
  -- The queue is one that was just filled with what it holds.
  have hretains : q.Retains q.farthestFirst :=
    ⟨h.ordered, (Nat.min_eq_right h.narrow).symm, [], by simp, by simp⟩
  exact (push_retains hretains n).orderly

theorem popped (h : q.Orderly) : q.pop.2.Orderly := by
  obtain ⟨capacity, farthestFirst⟩ := q
  cases farthestFirst with
  | nil => exact h
  | cons worst rest =>
      exact ⟨(List.pairwise_cons.mp h.ordered).2, (Nat.le_succ _).trans h.narrow⟩

end Orderly

/-- What is done to a queue. -/
inductive Operation where
  | push (n : Neighbor)
  | pop

/-- The queue after an operation. -/
def perform (q : TopK) : Operation → TopK
  | .push n => (q.push n).2
  | .pop => q.pop.2

theorem perform_capacity (q : TopK) (op : Operation) : (q.perform op).capacity = q.capacity := by
  cases op with
  | push n => exact push_capacity q n
  | pop =>
      obtain ⟨capacity, farthestFirst⟩ := q
      cases farthestFirst <;> rfl

theorem Orderly.perform {q : TopK} (h : q.Orderly) (op : Operation) : (q.perform op).Orderly := by
  cases op with
  | push n => exact h.push n
  | pop => exact h.popped

/-- All operations keep a queue in order and within the same capacity. -/
theorem Orderly.performAll {q : TopK} (h : q.Orderly) (ops : List Operation) :
    (ops.foldl TopK.perform q).Orderly ∧ (ops.foldl TopK.perform q).capacity = q.capacity := by
  induction ops generalizing q with
  | nil => exact ⟨h, rfl⟩
  | cons op rest ih =>
      obtain ⟨horderly, hcapacity⟩ := ih (h.perform op)
      exact ⟨horderly, hcapacity.trans (perform_capacity q op)⟩

/-- A queue for `k` neighbours keeps the `k` least of any candidates pushed, each as often as it was
pushed, and gives them in order; another push is accepted just where fewer than `k` candidates
before it rank no later; and the order of the pushes does not matter. After any pushes and pops it
holds at most `k` neighbours, shows and gives out a farthest one of them and keeps the others. -/
theorem pushAll_selects (k : Nat) (pushed : List Neighbor) :
    let q := (empty k).pushAll pushed
    (∃ dropped, (q.toSorted ++ dropped).Perm pushed ∧
      ∀ a ∈ q.toSorted, ∀ d ∈ dropped, a.rank ≤ d.rank) ∧
    q.size = min k pushed.length ∧
    q.toSorted.map Neighbor.rank = (sortedRanks pushed).take k ∧
    q.toSorted.Pairwise (fun a b => a.rank ≤ b.rank) ∧
    (∀ n, (q.push n).1 = true ↔ pushed.countP (fun p => decide (p.rank ≤ n.rank)) < k) ∧
    q.GivesFarthest q.pop.1 q.pop.2 ∧
    (∀ other : List Neighbor, other.Perm pushed →
      ((empty k).pushAll other).toSorted.map Neighbor.rank = q.toSorted.map Neighbor.rank) ∧
    ∀ ops : List Operation, let q := ops.foldl perform (empty k)
      q.size ≤ k ∧ q.GivesFarthest q.pop.1 q.pop.2 := by
  intro q
  have hretains : q.Retains pushed := offered_retains k pushed
  have hcapacity : q.capacity = k := pushAll_capacity (empty k) pushed
  refine ⟨?_, ?_, offered_ranks k pushed, hretains.toSorted_ordered, ?_, hretains.orderly.pop, ?_,
    ?_⟩
  · obtain ⟨dropped, hperm, hnearest⟩ := hretains.nearest
    refine ⟨dropped, ((List.reverse_perm _).append_right _).trans hperm, ?_⟩
    intro a ha
    exact hnearest a (List.mem_reverse.mp ha)
  · rw [← hcapacity]
    exact hretains.count
  · intro n
    rw [← hcapacity]
    exact hretains.push_iff n
  · intro other hother
    rw [offered_ranks, offered_ranks, sortedRanks_eq_of_perm hother]
  · intro ops
    obtain ⟨horderly, hsame⟩ := (empty_retains k).orderly.performAll ops
    exact ⟨horderly.narrow.trans_eq hsame, horderly.pop⟩

/-- Two kinds of NaN, both zeros, and one id that comes with each of the zeros. -/
def zerosAndNaNs : List Neighbor :=
  [⟨9, Single.invalid⟩, ⟨3, 0⟩, ⟨5, -0⟩, ⟨3, -0⟩, ⟨1, ⟨0x7FC00001⟩⟩]

/-- Both with id 3 are kept; one with id 4 is no nearer than them, and one with id 2 is. -/
theorem pushAll_selects_zerosAndNaNs :
    let q := (empty 2).pushAll zerosAndNaNs
    q.size = 2 ∧ q.toSorted.map Neighbor.id = [3, 3] ∧
    (q.push ⟨4, -0⟩).1 = false ∧ (q.push ⟨2, 0⟩).1 = true ∧
    ((empty 2).pushAll zerosAndNaNs.reverse).toSorted.map Neighbor.rank =
      q.toSorted.map Neighbor.rank := by
  intro q
  obtain ⟨-, hsize, -, -, haccepts, -, horder, -⟩ := pushAll_selects 2 zerosAndNaNs
  refine ⟨hsize, by decide, ?_, ?_, horder zerosAndNaNs.reverse (List.reverse_perm _)⟩
  · rw [← Bool.not_eq_true, haccepts]
    decide
  · rw [haccepts]
    decide

end Vicinity.TopK
