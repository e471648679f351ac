/-!
Marks on the nodes that a search has seen. A mark carries the number of the search that made it,
so starting over costs one increment: every mark of an earlier search is stale. Only when the
number wraps around are all marks cleared.
-/

namespace Vicinity.Graph

/-- Marks for the nodes `0`, `1`, …, and the number of the current search. -/
structure Visited where
  marks : Array UInt32
  generation : UInt32

namespace Visited

/-- No marks, before the first search. -/
def empty : Visited := ⟨#[], 0⟩

/-- The marks with room for at least `size` nodes. -/
def grow (marks : Array UInt32) (size : Nat) : Array UInt32 :=
  marks ++ Array.replicate (size - marks.size) 0

/-- Starts a search over `size` nodes with nothing seen. -/
def reset (v : Visited) (size : Nat) : Visited :=
  let marks := grow v.marks size
  let generation := v.generation + 1
  if generation = 0 then ⟨Array.replicate marks.size 0, 1⟩ else ⟨marks, generation⟩

/-- Marks a node; says whether it was seen for the first time. A node without room for a mark is
never seen. -/
def insert (v : Visited) (node : Nat) : Bool × Visited :=
  match v.marks[node]? with
  | none => (false, v)
  | some mark =>
    if mark = v.generation then (false, v)
    else (true, { v with marks := v.marks.setIfInBounds node v.generation })

end Visited

end Vicinity.Graph
