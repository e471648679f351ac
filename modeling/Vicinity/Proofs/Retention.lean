import Vicinity.Proofs.Ranking
import Mathlib.Data.List.Pairwise

/-!
What a bounded queue keeps. After any sequence of pushes the queue holds as many neighbours as it
has room for, farthest first, and nothing that was given up ranks before anything kept. Drained,
the ranks are therefore the front of all ranks pushed, in order.
-/

namespace Vicinity.TopK

/-- The ranks of neighbours in ascending order. -/
def sortedRanks (l : List Neighbor) : List (Nat ×ₗ Int) :=
  (l.map Neighbor.rank).mergeSort fun a b => decide (a ≤ b)

theorem sortedRanks_sorted (l : List Neighbor) : (sortedRanks l).Pairwise (· ≤ ·) :=
  List.sortedLE_mergeSort.pairwise

theorem sortedRanks_perm (l : List Neighbor) : (sortedRanks l).Perm (l.map Neighbor.rank) :=
  List.mergeSort_perm _ _

@[simp] theorem sortedRanks_length (l : List Neighbor) : (sortedRanks l).length = l.length := by
  rw [(sortedRanks_perm l).length_eq, List.length_map]

theorem sortedRanks_eq_of_perm {a b : List Neighbor} (hperm : a.Perm b) :
    sortedRanks a = sortedRanks b := by
  apply List.Perm.eq_of_pairwise' (sortedRanks_sorted a) (sortedRanks_sorted b)
  exact (sortedRanks_perm a).trans ((hperm.map _).trans (sortedRanks_perm b).symm)

/-- The queue after the given pushes: ordered, as full as it can be, and with nothing given up
that ranks before something kept. -/
structure Retains (q : TopK) (pushed : List Neighbor) : Prop where
  ordered : q.farthestFirst.Pairwise fun a b => b.rank ≤ a.rank
  count : q.farthestFirst.length = min q.capacity pushed.length
  nearest : ∃ dropped, (q.farthestFirst ++ dropped).Perm pushed ∧
    ∀ a ∈ q.farthestFirst, ∀ d ∈ dropped, a.rank ≤ d.rank

theorem empty_retains (k : Nat) : (empty k).Retains [] where
  ordered := List.Pairwise.nil
  count := by simp [empty]
  nearest := ⟨[], List.Perm.refl _, by simp⟩

theorem insertRanked_perm (n : Neighbor) (l : List Neighbor) :
    (insertRanked n l).Perm (n :: l) :=
  place_perm _ n l

theorem insertRanked_ordered (n : Neighbor) {l : List Neighbor}
    (hl : l.Pairwise fun a b => b.rank ≤ a.rank) :
    (insertRanked n l).Pairwise fun a b => b.rank ≤ a.rank :=
  place_sorted (κ := (Nat ×ₗ Int)ᵒᵈ) (fun a => OrderDual.toDual a.rank)
    (fun b c => Neighbor.before_iff c b) n l hl

/-- All that a push can do: take a neighbour into a queue that has room, replace the farthest
neighbour of a full one by a nearer one, or leave the queue as it is. -/
theorem push_cases (q : TopK) (n : Neighbor) :
    (q.size < q.capacity ∧
      q.push n = (true, { q with farthestFirst := insertRanked n q.farthestFirst })) ∨
    (∃ worst rest, q.capacity ≤ q.size ∧ q.farthestFirst = worst :: rest ∧
      n.rank < worst.rank ∧
      q.push n = (true, { q with farthestFirst := insertRanked n rest })) ∨
    (q.capacity ≤ q.size ∧ (q.capacity = 0 ∨ ∀ worst rest, q.farthestFirst = worst :: rest →
      worst.rank ≤ n.rank) ∧ q.push n = (false, q)) := by
  unfold push
  by_cases hzero : q.capacity = 0
  · exact Or.inr (Or.inr ⟨by omega, Or.inl hzero, if_pos hzero⟩)
  · rw [if_neg hzero]
    by_cases hroom : q.size < q.capacity
    · exact Or.inl ⟨hroom, if_pos hroom⟩
    · rw [if_neg hroom]
      cases hkept : q.farthestFirst with
      | nil => exact Or.inr (Or.inr ⟨by omega, Or.inr (by simp), rfl⟩)
      | cons worst rest =>
          by_cases hbefore : n.before worst = true
          · exact Or.inr (Or.inl ⟨worst, rest, by omega, rfl,
              (Neighbor.before_iff n worst).mp hbefore, if_pos hbefore⟩)
          · refine Or.inr (Or.inr ⟨by omega, Or.inr ?_, if_neg hbefore⟩)
            rintro worst rest ⟨⟩
            exact not_lt.mp fun hlt => hbefore ((Neighbor.before_iff n _).mpr hlt)

@[simp] theorem push_capacity (q : TopK) (n : Neighbor) :
    (q.push n).2.capacity = q.capacity := by
  rcases push_cases q n with ⟨_, h⟩ | ⟨_, _, _, _, _, h⟩ | ⟨_, _, h⟩ <;> rw [h]

/-- A push keeps the nearest: the neighbour that a full queue gives up, be it the new one or the
farthest of the old ones, ranks behind all that are kept. -/
theorem push_retains {q : TopK} {pushed : List Neighbor} (h : q.Retains pushed) (n : Neighbor) :
    (q.push n).2.Retains (pushed ++ [n]) := by
  obtain ⟨hordered, hcount, dropped, hperm, hnearest⟩ := h
  have hadded : (n :: pushed).Perm (pushed ++ [n]) := (List.perm_append_singleton n pushed).symm
  have hlength : (pushed ++ [n]).length = pushed.length + 1 := by simp
  rcases push_cases q n with ⟨hroom, hpush⟩ | ⟨worst, rest, hfull, hkept, hlt, hpush⟩ |
    ⟨hfull, hworst, hpush⟩ <;> rw [hpush] <;> unfold size at *
  · -- Below capacity nothing was ever given up, so there is nothing to compare with.
    have hsum := hperm.length_eq
    rw [List.length_append] at hsum
    have hnone : dropped = [] := List.eq_nil_of_length_eq_zero (by omega)
    subst hnone
    refine ⟨insertRanked_ordered n hordered, ?_, [], ?_, by simp⟩
    · simp only [(insertRanked_perm n _).length_eq, List.length_cons, hlength]
      omega
    · rw [List.append_nil] at hperm ⊢
      exact (insertRanked_perm n _).trans ((hperm.cons n).trans hadded)
  · rw [hkept] at hordered hcount hperm hnearest hfull
    obtain ⟨hworst, hrest⟩ := List.pairwise_cons.mp hordered
    simp only [List.length_cons] at hcount hfull
    refine ⟨insertRanked_ordered n hrest, ?_, worst :: dropped, ?_, ?_⟩
    · simp only [(insertRanked_perm n _).length_eq, List.length_cons, hlength]
      omega
    · calc
        (insertRanked n rest ++ worst :: dropped).Perm ((n :: rest) ++ worst :: dropped) :=
          (insertRanked_perm n rest).append_right _
        _ |>.Perm (n :: (worst :: rest ++ dropped)) := List.perm_middle.cons n
        _ |>.Perm (n :: pushed) := hperm.cons n
        _ |>.Perm (pushed ++ [n]) := hadded
    · intro a ha d hd
      have haw : a.rank ≤ worst.rank := by
        rcases List.mem_cons.mp ((insertRanked_perm n rest).mem_iff.mp ha) with rfl | ha
        · exact hlt.le
        · exact hworst a ha
      rcases List.mem_cons.mp hd with rfl | hd
      · exact haw
      · exact haw.trans (hnearest worst (by simp) d hd)
  · have hsame : q.farthestFirst.length = min q.capacity (pushed ++ [n]).length := by
      rw [hlength]
      omega
    refine ⟨hordered, hsame, n :: dropped,
      List.perm_middle.trans ((hperm.cons n).trans hadded), ?_⟩
    intro a ha d hd
    rcases List.mem_cons.mp hd with rfl | hd
    · cases hkept : q.farthestFirst with
      | nil => simp [hkept] at ha
      | cons worst rest =>
          rw [hkept] at ha hcount hordered
          have hzero : q.capacity ≠ 0 := by
            intro hzero
            simp [hzero] at hcount
          have hle : worst.rank ≤ d.rank := (hworst.resolve_left hzero) worst rest hkept
          rcases List.mem_cons.mp ha with rfl | ha
          · exact hle
          · exact ((List.pairwise_cons.mp hordered).1 a ha).trans hle
    · exact hnearest a ha d hd

theorem pushAll_retains {q : TopK} {pushed : List Neighbor} (h : q.Retains pushed)
    (l : List Neighbor) : (q.pushAll l).Retains (pushed ++ l) := by
  induction l generalizing q pushed with
  | nil => simpa [pushAll] using h
  | cons n rest ih => simpa [pushAll] using ih (push_retains h n)

@[simp] theorem pushAll_capacity (q : TopK) (l : List Neighbor) :
    (q.pushAll l).capacity = q.capacity := by
  induction l generalizing q with
  | nil => rfl
  | cons n rest ih => exact (ih (q.push n).2).trans (push_capacity q n)

/-- Everything offered to a fresh queue, as what the queue retains. -/
theorem offered_retains (k : Nat) (l : List Neighbor) : ((empty k).pushAll l).Retains l := by
  simpa using pushAll_retains (empty_retains k) l

theorem Retains.toSorted_ordered {q : TopK} {pushed : List Neighbor} (h : q.Retains pushed) :
    q.toSorted.Pairwise fun a b => a.rank ≤ b.rank := by
  rw [toSorted, List.pairwise_reverse]
  exact h.ordered

theorem Retains.toSorted_length {q : TopK} {pushed : List Neighbor} (h : q.Retains pushed) :
    q.toSorted.length = min q.capacity pushed.length := by
  rw [toSorted, List.length_reverse, h.count]

theorem Retains.toSorted_subperm {q : TopK} {pushed : List Neighbor} (h : q.Retains pushed) :
    q.toSorted.Subperm pushed := by
  obtain ⟨dropped, hperm, _⟩ := h.nearest
  have hsub : q.farthestFirst.Sublist (q.farthestFirst ++ dropped) :=
    List.sublist_append_left _ _
  exact (List.reverse_perm _).subperm.trans (hsub.subperm.trans hperm.subperm)

/-- What a queue has given up ranks behind all that it kept. -/
theorem Retains.rank_le_of_not_mem {q : TopK} {pushed : List Neighbor} (h : q.Retains pushed)
    {r n : Neighbor} (hr : r ∈ q.toSorted) (hn : n ∈ pushed) (hmissing : n ∉ q.toSorted) :
    r.rank ≤ n.rank := by
  obtain ⟨dropped, hperm, hnearest⟩ := h.nearest
  have hdropped : n ∈ dropped := by
    rcases List.mem_append.mp (hperm.mem_iff.mpr hn) with hkept | hdropped
    · exact absurd (List.mem_reverse.mpr hkept) hmissing
    · exact hdropped
  exact hnearest r (List.mem_reverse.mp hr) n hdropped

/-- Drained, the queue gives the least ranks among all that were pushed, in order. -/
theorem Retains.toSorted_ranks {q : TopK} {pushed : List Neighbor} (h : q.Retains pushed) :
    q.toSorted.map Neighbor.rank = (sortedRanks pushed).take q.capacity := by
  obtain ⟨dropped, hperm, hnearest⟩ := h.nearest
  have hfront : (q.toSorted.map Neighbor.rank).Pairwise (· ≤ ·) :=
    List.pairwise_map.mpr h.toSorted_ordered
  have hall : q.toSorted.map Neighbor.rank ++ sortedRanks dropped = sortedRanks pushed := by
    refine List.Perm.eq_of_pairwise' ?_ (sortedRanks_sorted pushed) ?_
    · refine List.pairwise_append.mpr ⟨hfront, sortedRanks_sorted dropped, ?_⟩
      intro a ha b hb
      obtain ⟨x, hx, rfl⟩ := List.mem_map.mp ha
      obtain ⟨d, hd, rfl⟩ := List.mem_map.mp ((sortedRanks_perm dropped).mem_iff.mp hb)
      exact hnearest x (List.mem_reverse.mp hx) d hd
    · calc
        (q.toSorted.map Neighbor.rank ++ sortedRanks dropped).Perm
            (q.farthestFirst.map Neighbor.rank ++ dropped.map Neighbor.rank) :=
          ((List.reverse_perm _).map _).append (sortedRanks_perm dropped)
        _ |>.Perm (pushed.map Neighbor.rank) := by
          rw [← List.map_append]
          exact hperm.map _
        _ |>.Perm (sortedRanks pushed) := (sortedRanks_perm pushed).symm
  rw [← hall, List.take_append, List.length_map, h.toSorted_length]
  have hsum := hperm.length_eq
  rw [List.length_append, h.count] at hsum
  have hshort : q.toSorted.length ≤ q.capacity := by rw [h.toSorted_length]; omega
  rw [List.take_of_length_le (by rwa [List.length_map])]
  rcases le_total q.capacity pushed.length with hle | hle
  · rw [Nat.min_eq_left hle, Nat.sub_self, List.take_zero, List.append_nil]
  · have hnone : dropped = [] := List.eq_nil_of_length_eq_zero (by omega)
    simp [hnone, sortedRanks]

theorem offered_length (k : Nat) (l : List Neighbor) :
    ((empty k).pushAll l).toSorted.length = min k l.length := by
  rw [(offered_retains k l).toSorted_length, pushAll_capacity, empty]

theorem offered_ranks (k : Nat) (l : List Neighbor) :
    ((empty k).pushAll l).toSorted.map Neighbor.rank = (sortedRanks l).take k := by
  rw [(offered_retains k l).toSorted_ranks, pushAll_capacity, empty]

/-- Each place of the drained queue has the rank of that place among all that was offered. -/
theorem offered_rank {k : Nat} {l : List Neighbor} {i : Nat}
    (hi : i < ((empty k).pushAll l).toSorted.length) (hj : i < (sortedRanks l).length) :
    (((empty k).pushAll l).toSorted[i]).rank = (sortedRanks l)[i] := by
  have hranks := offered_ranks k l
  have hk : i < k := by
    have hlength := offered_length k l
    omega
  apply Option.some_injective
  rw [← List.getElem?_eq_getElem hj, ← List.getElem?_take_of_lt hk, ← hranks,
    List.getElem?_map, List.getElem?_eq_getElem hi, Option.map_some]

/-- Offered neighbours at ascending distances, a queue keeps those at the front. -/
theorem offered_rankKeys (k : Nat) {l : List Neighbor}
    (h : (l.map fun n => n.distance.rankKey).Pairwise (· < ·)) :
    ((empty k).pushAll l).toSorted.map (fun n => n.distance.rankKey) =
      (l.map fun n => n.distance.rankKey).take k := by
  have hordered : (l.map Neighbor.rank).Pairwise (· ≤ ·) := by
    refine List.pairwise_map.mpr ((List.pairwise_map.mp h).imp fun hlt => ?_)
    exact Prod.Lex.toLex_le_toLex.mpr (Or.inl hlt)
  have hsorted : sortedRanks l = l.map Neighbor.rank :=
    List.Perm.eq_of_pairwise' (sortedRanks_sorted l) hordered (sortedRanks_perm l)
  have hranks := offered_ranks k l
  rw [hsorted] at hranks
  have hkeys := congrArg (List.map fun r => (ofLex r).1) hranks
  simpa [List.map_take, Function.comp_def, Neighbor.rank] using hkeys

/-- A queue that was offered a choice of what there is ranks at every place behind one that was
offered everything. -/
theorem exists_rank_le_of_subperm {part all : List Neighbor} (k : Nat) (hpart : part.Subperm all)
    {i : Nat} (hi : i < ((empty k).pushAll part).toSorted.length) :
    ∃ r, ((empty k).pushAll all).toSorted[i]? = some r ∧
      r.rank ≤ (((empty k).pushAll part).toSorted[i]).rank := by
  have hsublist : (sortedRanks part).Sublist (sortedRanks all) := by
    obtain ⟨l, hperm, hsub⟩ := hpart
    refine List.sublist_of_subperm_of_pairwise ?_ (sortedRanks_sorted part)
      (sortedRanks_sorted all)
    exact ((sortedRanks_perm part).trans (hperm.map _).symm).subperm.trans
      ((hsub.map _).subperm.trans (sortedRanks_perm all).symm.subperm)
  have hlength := hpart.length_le
  have hi' := hi
  rw [offered_length] at hi'
  have hj : i < ((empty k).pushAll all).toSorted.length := by
    rw [offered_length]
    omega
  refine ⟨_, List.getElem?_eq_getElem hj, ?_⟩
  rw [offered_rank hj (by rw [sortedRanks_length]; omega),
    offered_rank hi (by rw [sortedRanks_length]; omega)]
  exact getElem_le_of_sublist hsublist (sortedRanks_sorted all) i _ _

/-- Neighbours in the order of their ranks. -/
def ranked (l : List Neighbor) : List Neighbor :=
  l.mergeSort fun a b => decide (a.rank ≤ b.rank)

theorem ranked_perm (l : List Neighbor) : (ranked l).Perm l := List.mergeSort_perm _ _

theorem ranked_ranks (l : List Neighbor) : (ranked l).map Neighbor.rank = sortedRanks l := by
  have hsorted : (ranked l).Pairwise fun a b => decide (a.rank ≤ b.rank) = true :=
    List.pairwise_mergeSort (fun a b c hab hbc => by simp_all; exact hab.trans hbc)
      (fun a b => by simpa using le_total a.rank b.rank) l
  refine List.Perm.eq_of_pairwise' ?_ (sortedRanks_sorted l) ?_
  · exact List.pairwise_map.mpr (hsorted.imp of_decide_eq_true)
  · exact ((ranked_perm l).map _).trans (sortedRanks_perm l).symm

/-- Of two neighbours with the same rank there is only one among neighbours with different ids. -/
theorem eq_of_ranks {a b all : List Neighbor} (hids : (all.map Neighbor.id).Nodup) (ha : a ⊆ all)
    (hb : b ⊆ all) (hranks : a.map Neighbor.rank = b.map Neighbor.rank) : a = b := by
  have hlength : a.length = b.length := by simpa using congrArg List.length hranks
  apply List.ext_getElem hlength
  intro i hi hj
  have hrank : (a[i]).rank = (b[i]).rank := by
    simpa [hi, hj] using congrArg (fun ranks => ranks[i]?) hranks
  have hid := congrArg (fun r => (ofLex r).2) hrank
  exact List.inj_on_of_nodup_map hids (ha (List.getElem_mem hi)) (hb (List.getElem_mem hj)) hid

/-- Offered neighbours with different ids, a queue keeps the front of them in order. -/
theorem offered_eq_ranked {l : List Neighbor} (hids : (l.map Neighbor.id).Nodup) (k : Nat) :
    ((empty k).pushAll l).toSorted = (ranked l).take k := by
  refine eq_of_ranks hids (offered_retains k l).toSorted_subperm.subset ?_ ?_
  · exact List.Subset.trans (List.take_subset _ _) (ranked_perm l).subset
  · rw [offered_ranks, List.map_take, ranked_ranks]

theorem ranked_eq_of_perm {a b : List Neighbor} (hperm : a.Perm b)
    (hids : (a.map Neighbor.id).Nodup) : ranked a = ranked b := by
  refine eq_of_ranks hids (ranked_perm a).subset ((ranked_perm b).trans hperm.symm).subset ?_
  rw [ranked_ranks, ranked_ranks, sortedRanks_eq_of_perm hperm]

/-- The order in which candidates with different ids are offered does not matter: of two with the
same rank there is only one. -/
theorem offered_perm {a b : List Neighbor} (hperm : a.Perm b)
    (hids : (a.map Neighbor.id).Nodup) (k : Nat) :
    ((empty k).pushAll a).toSorted = ((empty k).pushAll b).toSorted := by
  have hids' : (b.map Neighbor.id).Nodup := (hperm.map _).nodup_iff.mp hids
  rw [offered_eq_ranked hids, offered_eq_ranked hids', ranked_eq_of_perm hperm hids]

/-- Whether results keep, of neighbours that are as far as the last of them, those with the least
ids: one that is left out has a greater id. -/
def KeepsTies (all results : List Neighbor) : Prop :=
  ∀ last ∈ results.getLast?, ∀ n ∈ all, n ∉ results →
    n.distance.rankKey = last.distance.rankKey → last.id < n.id

/-- Of neighbours that are all equally far, results that have the one with the greatest id but not
all others lose a tie. -/
theorem not_keepsTies {all results : List Neighbor} {key : Nat}
    (heven : ∀ n ∈ all, n.distance.rankKey = key) (hids : (all.map Neighbor.id).Nodup)
    (hordered : results.Pairwise fun a b => a.rank ≤ b.rank) (hpart : results ⊆ all)
    (hshort : results.length < all.length) {greatest : Neighbor} (hmem : greatest ∈ results)
    (hgreatest : ∀ n ∈ all, n.id ≤ greatest.id) : ¬ KeepsTies all results := by
  intro hkeeps
  obtain ⟨n, hn, hmissing⟩ : ∃ n ∈ all, n ∉ results := by
    by_contra hall
    push Not at hall
    exact absurd (List.subperm_of_subset (hids.of_map _) hall).length_le (by omega)
  have hsome : results ≠ [] := List.ne_nil_of_mem hmem
  have hlast := results.getLast_mem hsome
  have hkeys : ∀ r ∈ results, r.distance.rankKey = key := fun r hr => heven r (hpart hr)
  have hbehind : greatest.id ≤ (results.getLast hsome).id := by
    have hranks := (List.pairwise_map.mpr hordered).rel_getLast (List.mem_map_of_mem hmem)
    rw [List.getLast_map] at hranks
    rcases Prod.Lex.toLex_le_toLex.mp hranks with hlt | ⟨-, hle⟩
    · exact absurd hlt (by simp [hkeys _ hmem, hkeys _ hlast])
    · exact hle
  have hid := hkeeps _ (List.getLast?_eq_getLast_of_ne_nil hsome) n hn hmissing
    (by rw [heven n hn, hkeys _ hlast])
  exact absurd (hgreatest n hn) (by omega)

/-- A queue keeps ties among what it was offered. -/
theorem offered_keepsTies {l : List Neighbor} (hids : (l.map Neighbor.id).Nodup) (k : Nat) :
    KeepsTies l ((empty k).pushAll l).toSorted := by
  intro last hlast n hn hmissing hkey
  have hretains := offered_retains k l
  have hmem := List.mem_of_getLast? hlast
  have hrank := hretains.rank_le_of_not_mem hmem hn hmissing
  have hle : last.id ≤ n.id := by
    rcases Prod.Lex.toLex_le_toLex.mp hrank with hlt | ⟨-, hle⟩
    · exact absurd hlt (by simp [hkey])
    · exact hle
  refine lt_of_le_of_ne hle fun hid => hmissing ?_
  rwa [List.inj_on_of_nodup_map hids hn (hretains.toSorted_subperm.subset hmem) hid.symm]

/-- Offered a part of what there is, a queue keeps ties among all of it just where the rest of it
has none with a lesser id. -/
theorem offered_keepsTies_iff {part : List Neighbor} (hids : (part.map Neighbor.id).Nodup)
    (k : Nat) (all : List Neighbor) : KeepsTies all ((empty k).pushAll part).toSorted ↔
      ∀ last ∈ ((empty k).pushAll part).toSorted.getLast?, ∀ n ∈ all, n ∉ part →
        n.distance.rankKey = last.distance.rankKey → last.id < n.id := by
  constructor
  · intro hkeeps last hlast n hn hmissing hkey
    refine hkeeps last hlast n hn (fun hmem => hmissing ?_) hkey
    exact (offered_retains k part).toSorted_subperm.subset hmem
  · intro hrest last hlast n hn hmissing hkey
    by_cases hpart : n ∈ part
    · exact offered_keepsTies hids k last hlast n hpart hmissing hkey
    · exact hrest last hlast n hn hpart hkey

end Vicinity.TopK
