import Mathlib.Data.List.Induction
import Mathlib.Data.Set.Insert
import Vicinity.Proofs.Graph.Marks

/-!
Marks through any sequence of resets and insertions. The nodes seen are at each moment the nodes
inserted since the last reset, so an insertion tells whether it is the first of its node since
then. It does not matter how often the number of the search has wrapped around, or whether the last
reset asked for less room than one before it.
-/

namespace Vicinity.Graph.Visited

/-- What is done to marks. -/
inductive Call where
  | reset (size : Nat)
  | insert (node : Nat)

/-- The marks after a call. -/
def perform (v : Visited) : Call → Visited
  | .reset size => v.reset size
  | .insert node => (v.insert node).2

/-- The nodes inserted with no reset after that. -/
def sinceReset (calls : List Call) : Set Nat :=
  { node | ∃ before after, calls = before ++ .insert node :: after ∧
      ∀ size, Call.reset size ∉ after }

/-- Whether each node inserted lies below some size that a reset before it has asked for, and so
below the largest of them. The first call can thus only be a reset. -/
def Placed (calls : List Call) : Prop :=
  ∀ before node after, calls = before ++ .insert node :: after →
    ∃ size, Call.reset size ∈ before ∧ node < size

section History

variable (calls : List Call)

theorem sinceReset_nil : sinceReset [] = ∅ := by
  ext node
  simp [sinceReset]

/-- What the last call does to the nodes inserted since the last reset. -/
theorem mem_sinceReset_concat (last : Call) (node : Nat) :
    node ∈ sinceReset (calls ++ [last]) ↔
      last = .insert node ∨ (∀ size, last ≠ .reset size) ∧ node ∈ sinceReset calls := by
  constructor
  · rintro ⟨before, after, hcalls, hafter⟩
    rcases List.eq_nil_or_concat after with rfl | ⟨after, c, rfl⟩
    · exact Or.inl (List.singleton_inj.mp (List.append_inj' hcalls rfl).2)
    · rw [List.concat_eq_append] at hcalls hafter
      rw [← List.cons_append, ← List.append_assoc] at hcalls
      obtain ⟨rfl, hlast⟩ := List.append_inj' hcalls rfl
      obtain rfl := List.singleton_inj.mp hlast
      refine Or.inr ⟨?_, before, after, rfl, ?_⟩
      · rintro size rfl
        exact hafter size (by simp)
      · intro size hsize
        exact hafter size (List.mem_append_left _ hsize)
  · rintro (rfl | ⟨hlast, before, after, rfl, hafter⟩)
    · exact ⟨calls, [], rfl, by simp⟩
    · refine ⟨before, after ++ [last], by simp, ?_⟩
      intro size hsize
      rcases List.mem_append.mp hsize with hsize | hsize
      · exact hafter size hsize
      · exact hlast size (List.mem_singleton.mp hsize).symm

/-- To reset empties the set. -/
@[simp] theorem sinceReset_reset (size : Nat) : sinceReset (calls ++ [.reset size]) = ∅ := by
  ext node
  simp [mem_sinceReset_concat]

/-- To insert adds to the set. -/
@[simp] theorem sinceReset_insert (node : Nat) :
    sinceReset (calls ++ [.insert node]) = Insert.insert node (sinceReset calls) := by
  ext i
  simp [mem_sinceReset_concat, eq_comm]

end History

theorem placed_nil : Placed [] := by
  intro before node after hcalls
  simp at hcalls

theorem Placed.of_append {calls more : List Call} (h : Placed (calls ++ more)) :
    Placed calls := by
  rintro before node after rfl
  exact h before node (after ++ more) (by simp)

theorem Placed.concat {calls : List Call} (h : Placed calls) {last : Call}
    (hlast : ∀ node, last = .insert node → ∃ size, Call.reset size ∈ calls ∧ node < size) :
    Placed (calls ++ [last]) := by
  intro before node after hcalls
  rcases List.eq_nil_or_concat after with rfl | ⟨after, c, rfl⟩
  · obtain ⟨rfl, hinsert⟩ := List.append_inj' hcalls rfl
    exact hlast node (List.singleton_inj.mp hinsert)
  · rw [List.concat_eq_append, ← List.cons_append, ← List.append_assoc] at hcalls
    obtain ⟨rfl, -⟩ := List.append_inj' hcalls rfl
    exact h before node after rfl

theorem perform_room (v : Visited) (c : Call) : v.marks.size ≤ (v.perform c).marks.size := by
  cases c with
  | reset size => exact (Nat.le_max_left _ _).trans_eq (reset_marks_size v size).symm
  | insert node => exact (insert_size v node).ge

/-- Marks keep the room that any reset has asked for. -/
theorem room_of_mem {calls : List Call} {size : Nat} (h : Call.reset size ∈ calls) (v : Visited) :
    size ≤ (calls.foldl perform v).marks.size := by
  induction calls using List.reverseRecOn with
  | nil => simp at h
  | append_singleton calls last ih =>
      rw [List.foldl_append, List.foldl_cons, List.foldl_nil]
      rcases List.mem_append.mp h with h | h
      · exact (ih h).trans (perform_room _ last)
      · rw [← List.mem_singleton.mp h]
        exact reset_size _ size

theorem Placed.lt_room {before after calls : List Call} {node : Nat} (h : Placed calls)
    (hcalls : calls = before ++ .insert node :: after) (v : Visited) :
    node < (before.foldl perform v).marks.size := by
  obtain ⟨size, hsize, hlt⟩ := h before node after hcalls
  exact hlt.trans_le (room_of_mem hsize v)

/-- Marks that stand for a set of nodes. No mark is dated past the current search, or else a later
search would find it there. -/
structure Holds (v : Visited) (nodes : Set Nat) : Prop where
  dated : v.Dated
  seen : ∀ node, v.Seen node ↔ node ∈ nodes

theorem empty_holds : empty.Holds ∅ where
  dated := empty_dated
  seen := by simp [Seen, empty]

namespace Holds

variable {v : Visited} {nodes : Set Nat}

theorem reset (h : v.Holds nodes) (size : Nat) : (v.reset size).Holds ∅ where
  dated := reset_dated h.dated size
  seen node := iff_of_false (reset_unseen h.dated size node) (Set.notMem_empty node)

theorem insert (h : v.Holds nodes) {node : Nat} (hnode : node < v.marks.size) :
    (v.insert node).2.Holds (Insert.insert node nodes) where
  dated := insert_dated h.dated node
  seen i := by rw [insert_seen hnode, h.seen, Set.mem_insert_iff, or_comm]

end Holds

/-- After any calls the marks stand for the nodes inserted since the last reset. -/
theorem Placed.holds {calls : List Call} (h : Placed calls) :
    (calls.foldl perform empty).Holds (sinceReset calls) := by
  -- The induction takes away the last call, which is the one that decides what is held.
  induction calls using List.reverseRecOn with
  | nil =>
      rw [sinceReset_nil]
      exact empty_holds
  | append_singleton calls last ih =>
      rw [List.foldl_append, List.foldl_cons, List.foldl_nil]
      cases last with
      | reset size =>
          rw [sinceReset_reset]
          exact (ih h.of_append).reset size
      | insert node =>
          rw [sinceReset_insert]
          exact (ih h.of_append).insert (h.lt_room rfl empty)

/-- Each insertion finds a mark for its node, and says yes just where the node has not been inserted
since the last reset. -/
theorem insert_iff_notMem_sinceReset {calls before after : List Call} {node : Nat}
    (h : Placed calls) (hcalls : calls = before ++ .insert node :: after) :
    let v := before.foldl perform empty
    node < v.marks.size ∧ ((v.insert node).1 = true ↔ node ∉ sinceReset before) := by
  intro v
  have hroom : node < v.marks.size := h.lt_room hcalls empty
  subst hcalls
  have hholds : v.Holds (sinceReset before) := h.of_append.holds
  refine ⟨hroom, ?_⟩
  rw [insert_fst hroom, hholds.seen]

/-- A search that inserts a node, and a number of other searches over fewer nodes. -/
def overtaken (others : Nat) : List Call :=
  [.reset 3, .insert 2] ++ List.replicate others (.reset 1)

theorem overtaken_succ (others : Nat) :
    overtaken (others + 1) = overtaken others ++ [.reset 1] := by
  rw [overtaken, List.replicate_succ', ← List.append_assoc, overtaken]

theorem overtaken_room (others : Nat) : ∃ size, Call.reset size ∈ overtaken others ∧ 2 < size :=
  ⟨3, by simp [overtaken], by decide⟩

theorem overtaken_placed (others : Nat) : Placed (overtaken others) := by
  induction others with
  | zero =>
      have hreset : Placed [.reset 3] := placed_nil.concat (by simp)
      exact hreset.concat fun node hnode => ⟨3, by simp, by cases hnode; decide⟩
  | succ others ih =>
      rw [overtaken_succ]
      exact ih.concat (by simp)

/-- The number of the first search comes round again with the last of `UInt32.size - 1` others. The
mark it left is gone by then, and there is still room for it. -/
theorem insert_iff_notMem_sinceReset_wrapped :
    let calls := overtaken (UInt32.size - 1)
    ((calls.foldl perform empty).insert 2).1 = true ∧
    (((calls ++ [Call.insert 2]).foldl perform empty).insert 2).1 = false := by
  intro calls
  have hlast : calls = overtaken (UInt32.size - 2) ++ [.reset 1] := overtaken_succ _
  have hroom : ∃ size, Call.reset size ∈ calls ∧ 2 < size := overtaken_room _
  have honce : Placed (calls ++ [.insert 2]) :=
    (overtaken_placed _).concat fun node hnode => by cases hnode; exact hroom
  have htwice : Placed (calls ++ [.insert 2] ++ [.insert 2]) :=
    honce.concat fun node hnode => by
      cases hnode
      obtain ⟨size, hsize, hlt⟩ := hroom
      exact ⟨size, List.mem_append_left _ hsize, hlt⟩
  obtain ⟨-, hfirst⟩ := insert_iff_notMem_sinceReset honce rfl
  obtain ⟨-, hagain⟩ := insert_iff_notMem_sinceReset htwice rfl
  constructor
  · rw [hfirst, hlast, sinceReset_reset]
    exact Set.notMem_empty 2
  · rw [← Bool.not_eq_true, hagain, not_not, sinceReset_insert]
    exact Set.mem_insert 2 _

end Vicinity.Graph.Visited
