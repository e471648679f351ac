import Vicinity.Graph.Search
import Mathlib.Data.List.Sort
import Mathlib.Data.Prod.Lex

/-!
Ranks as elements of a linear order. Neighbours rank by distance and then by id, nodes of a graph
by distance and then by number; both comparisons of the library are the strict order of these
ranks. An ordered list that gets one more item by `place` stays ordered.
-/

namespace Vicinity

section Place

variable {α κ : Type*}

theorem place_perm (staysBefore : α → α → Bool) (a : α) (l : List α) :
    (place staysBefore a l).Perm (a :: l) := by
  induction l with
  | nil => exact List.Perm.refl _
  | cons b rest ih =>
      simp only [place]
      split
      · exact (ih.cons b).trans (List.Perm.swap a b rest)
      · exact List.Perm.refl _

theorem mem_place {staysBefore : α → α → Bool} {a b : α} {l : List α} :
    b ∈ place staysBefore a l ↔ b = a ∨ b ∈ l := by
  rw [(place_perm staysBefore a l).mem_iff, List.mem_cons]

/-- Placing keeps a list ordered by rank, where the comparison is the strict order of ranks. -/
theorem place_sorted [LinearOrder κ] {staysBefore : α → α → Bool} (rank : α → κ)
    (hrank : ∀ b c, staysBefore b c = true ↔ rank b < rank c) (a : α) (l : List α)
    (hl : l.Pairwise fun b c => rank b ≤ rank c) :
    (place staysBefore a l).Pairwise fun b c => rank b ≤ rank c := by
  induction l with
  | nil => exact List.pairwise_singleton _ _
  | cons b rest ih =>
      obtain ⟨hb, hrest⟩ := List.pairwise_cons.mp hl
      simp only [place]
      split
      · rename_i hstays
        refine List.pairwise_cons.mpr ⟨?_, ih hrest⟩
        intro c hc
        rcases mem_place.mp hc with rfl | hc
        · exact ((hrank b c).mp hstays).le
        · exact hb c hc
      · rename_i hstays
        have hab : rank a ≤ rank b := not_lt.mp fun hlt => hstays ((hrank b a).mpr hlt)
        refine List.pairwise_cons.mpr ⟨?_, hl⟩
        intro c hc
        rcases List.mem_cons.mp hc with rfl | hc
        · exact hab
        · exact hab.trans (hb c hc)

end Place

/-- Leaving items out of an ordered list lets none of the others come earlier than before. -/
theorem getElem_le_of_sublist {κ : Type*} [LinearOrder κ] {xs ys : List κ} (h : xs.Sublist ys)
    (hys : ys.Pairwise (· ≤ ·)) (i : Nat) (hi : i < xs.length) (hj : i < ys.length) :
    ys[i] ≤ xs[i] := by
  induction h generalizing i with
  | slnil => simp at hi
  | @cons xs ys a hsub ih =>
      obtain ⟨ha, hys⟩ := List.pairwise_cons.mp hys
      have hiy : i < ys.length := hi.trans_le hsub.length_le
      have hle := ih hys i hi hiy
      cases i with
      | zero => exact (ha _ (List.getElem_mem hiy)).trans hle
      | succ i =>
          have hstep : ys[i] ≤ ys[i + 1] :=
            List.pairwise_iff_getElem.mp hys i (i + 1) (by omega) hiy (by omega)
          exact hstep.trans hle
  | @cons_cons xs ys a hsub ih =>
      cases i with
      | zero => exact le_refl a
      | succ i =>
          exact ih (List.pairwise_cons.mp hys).2 i (by simpa using hi) (by simpa using hj)

/-- If every item of an ascending list stands in another one or comes after all of it, then the
other list has at no place more than the first one. -/
theorem getElem_le_of_covered {κ : Type*} [LinearOrder κ] {xs ys : List κ}
    (hxs : xs.Pairwise (· < ·)) (hys : ys.Pairwise (· ≤ ·))
    (h : ∀ x ∈ xs, x ∈ ys ∨ ∀ y ∈ ys, y ≤ x) (i : Nat) (hi : i < xs.length) (hj : i < ys.length) :
    ys[i] ≤ xs[i] := by
  by_contra hlt
  -- The first `i + 1` items of the one list would be among the first `i` items of the other.
  have hsub : xs.take (i + 1) ⊆ ys.take i := by
    intro x hx
    obtain ⟨j, hjtake, rfl⟩ := List.mem_iff_getElem.mp hx
    rw [List.length_take] at hjtake
    have hjx : j < xs.length := by omega
    rw [List.getElem_take]
    have hle : xs[j] ≤ xs[i] := by
      rcases Nat.lt_or_ge j i with hji | hij
      · exact (List.pairwise_iff_getElem.mp hxs j i hjx hi hji).le
      · exact le_of_eq (by congr 1; omega)
    have hbelow : xs[j] < ys[i] := hle.trans_lt (not_le.mp hlt)
    rcases h xs[j] (List.getElem_mem hjx) with hmem | hafter
    · obtain ⟨l, hl, heq⟩ := List.mem_iff_getElem.mp hmem
      have hli : l < i := by
        by_contra hil
        rcases Nat.lt_or_eq_of_le (Nat.not_lt.mp hil) with hil | rfl
        · have := List.pairwise_iff_getElem.mp hys i l hj hl hil
          exact absurd (heq ▸ hbelow) (not_lt.mpr this)
        · exact absurd (heq ▸ hbelow) (lt_irrefl _)
      rw [← heq]
      exact List.mem_take_iff_getElem.mpr ⟨l, by omega, rfl⟩
    · exact absurd hbelow (not_lt.mpr (hafter ys[i] (List.getElem_mem hj)))
  have hdistinct : (xs.take (i + 1)).Nodup :=
    (hxs.imp ne_of_lt).sublist (List.take_sublist _ _)
  have hlength := (List.subperm_of_subset hdistinct hsub).length_le
  rw [List.length_take, List.length_take] at hlength
  omega

namespace Neighbor

/-- The rank of a neighbour: its distance, then its id. -/
def rank (n : Neighbor) : Nat ×ₗ Int := toLex (n.distance.rankKey, n.id)

theorem before_iff (a b : Neighbor) : a.before b = true ↔ a.rank < b.rank := by
  simp [before, rank, Prod.Lex.toLex_lt_toLex]

end Neighbor

namespace Graph.Scored

/-- The rank of a node at a distance: the distance, then the number of the node. -/
def rank (s : Scored) : Nat ×ₗ Nat := toLex (s.distance.rankKey, s.node)

theorem before_iff (a b : Scored) : a.before b = true ↔ a.rank < b.rank := by
  simp [before, rank, Prod.Lex.toLex_lt_toLex]

theorem rankKey_le_of_rank_le {a b : Scored} (h : a.rank ≤ b.rank) :
    a.distance.rankKey ≤ b.distance.rankKey := by
  rcases Prod.Lex.toLex_le_toLex.mp h with hlt | ⟨heq, _⟩
  · exact hlt.le
  · exact heq.le

end Graph.Scored

end Vicinity
