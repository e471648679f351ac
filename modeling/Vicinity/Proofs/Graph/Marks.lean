import Vicinity.Graph.Visited

/-!
Marks as a set of nodes. A node counts as seen while its mark carries the number of the current
search. No mark ever carries a later number, so that starting over leaves nothing seen, also where
the number wraps around.
-/

namespace Vicinity.Graph.Visited

/-- Whether the current search has seen a node. -/
def Seen (v : Visited) (node : Nat) : Prop := v.marks[node]? = some v.generation

theorem Seen.lt {v : Visited} {node : Nat} (h : v.Seen node) : node < v.marks.size := by
  obtain ⟨hlt, _⟩ := Array.getElem?_eq_some_iff.mp h
  exact hlt

def Dated (v : Visited) : Prop :=
  ∀ (i : Nat) (mark : UInt32), v.marks[i]? = some mark → mark ≤ v.generation

theorem empty_dated : empty.Dated := by
  intro i mark h
  simp [empty] at h

theorem grow_size (marks : Array UInt32) (size : Nat) :
    (grow marks size).size = max marks.size size := by
  simp only [grow, Array.size_append, Array.size_replicate]
  omega

/-- The marks that growing adds are zero. -/
theorem grow_getElem? {marks : Array UInt32} {size i : Nat} {mark : UInt32}
    (h : (grow marks size)[i]? = some mark) : marks[i]? = some mark ∨ mark = 0 := by
  rw [grow, Array.getElem?_append] at h
  split at h
  · exact Or.inl h
  · rw [Array.getElem?_replicate] at h
    split at h
    · exact Or.inr (Option.some.inj h).symm
    · simp at h

theorem reset_marks_size (v : Visited) (size : Nat) :
    (v.reset size).marks.size = max v.marks.size size := by
  have hgrow := grow_size v.marks size
  unfold reset
  dsimp only
  split
  · rw [Array.size_replicate, hgrow]
  · exact hgrow

theorem reset_size (v : Visited) (size : Nat) : size ≤ (v.reset size).marks.size := by
  rw [reset_marks_size]
  exact Nat.le_max_right _ _

/-- All that starting over can do: take the next number, which no mark carries yet, or clear all
marks. -/
theorem reset_marks {v : Visited} (hv : v.Dated) (size : Nat) {i : Nat} {mark : UInt32}
    (h : (v.reset size).marks[i]? = some mark) : mark < (v.reset size).generation := by
  unfold reset at h ⊢
  dsimp only at h ⊢
  split at h
  · rename_i hwrap
    rw [if_pos hwrap]
    rw [Array.getElem?_replicate] at h
    split at h
    · rw [← Option.some.inj h]
      exact (by decide : (0 : UInt32) < 1)
    · simp at h
  · rename_i hnext
    rw [if_neg hnext]
    have hnext : v.generation + 1 ≠ 0 := hnext
    have hsucc : (v.generation + 1).toNat = v.generation.toNat + 1 := by
      have hlt := v.generation.toNat_lt
      have hne : (v.generation + 1).toNat ≠ 0 := fun h0 => hnext (UInt32.toNat_inj.mp h0)
      rw [UInt32.toNat_add] at hne ⊢
      simp only [UInt32.toNat_one] at hne ⊢
      omega
    rw [UInt32.lt_iff_toNat_lt, hsucc]
    rcases grow_getElem? h with hold | rfl
    · have hle := UInt32.le_iff_toNat_le.mp (hv i mark hold)
      omega
    · simp

theorem reset_dated {v : Visited} (hv : v.Dated) (size : Nat) : (v.reset size).Dated := by
  intro i mark h
  exact UInt32.le_of_lt (reset_marks hv size h)

/-- Starting over leaves nothing seen. -/
theorem reset_unseen {v : Visited} (hv : v.Dated) (size node : Nat) :
    ¬ (v.reset size).Seen node := by
  intro h
  exact UInt32.lt_irrefl _ (reset_marks hv size h)

/-- Marking a node says whether it had not been seen. -/
theorem insert_fst {v : Visited} {node : Nat} (hnode : node < v.marks.size) :
    (v.insert node).1 = true ↔ ¬ v.Seen node := by
  unfold insert Seen
  rw [Array.getElem?_eq_getElem hnode]
  dsimp only
  split <;> simp_all

@[simp] theorem insert_size (v : Visited) (node : Nat) :
    (v.insert node).2.marks.size = v.marks.size := by
  unfold insert
  split
  · rfl
  · split
    · rfl
    · simp

theorem insert_dated {v : Visited} (hv : v.Dated) (node : Nat) : (v.insert node).2.Dated := by
  unfold insert
  split
  · exact hv
  · split
    · exact hv
    · intro i mark h
      rw [Array.getElem?_setIfInBounds] at h
      split at h
      · split at h
        · rw [← Option.some.inj h]
          exact UInt32.le_refl _
        · simp at h
      · exact hv i mark h

/-- Marking a node adds it to those seen, and no other. -/
theorem insert_seen {v : Visited} {node : Nat} (hnode : node < v.marks.size) (i : Nat) :
    (v.insert node).2.Seen i ↔ v.Seen i ∨ i = node := by
  unfold insert Seen
  rw [Array.getElem?_eq_getElem hnode]
  dsimp only
  by_cases hmark : v.marks[node] = v.generation
  · rw [if_pos hmark]
    constructor
    · exact Or.inl
    · rintro (h | rfl)
      · exact h
      · rw [Array.getElem?_eq_getElem hnode, hmark]
  · rw [if_neg hmark]
    dsimp only
    rw [Array.getElem?_setIfInBounds]
    by_cases hi : node = i
    · subst hi
      simp [hnode]
    · rw [if_neg hi]
      constructor
      · exact Or.inl
      · rintro (h | rfl)
        · exact h
        · exact absurd rfl hi

end Vicinity.Graph.Visited
