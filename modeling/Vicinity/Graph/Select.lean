import Vicinity.Graph.Search

/-!
Choosing the links of a node. A candidate is taken if it is no farther from the node than from
every candidate taken before it, so links spread in different directions; leftovers fill up what
room remains.
-/

namespace Vicinity.Graph

/-- Whether a candidate comes no later than another in the order of choosing: by distance in the
strict order, then by number. -/
def Scored.chosenBefore (a b : Scored) : Bool :=
  a.distance.strictKey < b.distance.strictKey ||
    (a.distance.strictKey == b.distance.strictKey && a.node ≤ b.node)

def choosingOrder (candidates : List Scored) : List Scored :=
  candidates.mergeSort Scored.chosenBefore

def between (metric : Metric) (nodes : Array Node) (a b : Nat) : Single :=
  match nodes[a]?, nodes[b]? with
  | some a, some b => metric a.vector b.vector
  | _, _ => Single.infinity

/-- Takes candidates in order until there are `m`, leaving out those nearer to one already taken
than to the node in question. -/
def takeDiverse (gap : Nat → Nat → Single) (m : Nat) : List Nat → List Scored → List Nat
  | taken, [] => taken
  | taken, c :: rest =>
    if m ≤ taken.length then taken
    else if taken.all fun t => decide (c.distance ≤ gap c.node t) then
      takeDiverse gap m (taken ++ [c.node]) rest
    else takeDiverse gap m taken rest

/-- At most `m` of the candidates: the diverse ones, then the nearest of the others. -/
def selectLinks (metric : Metric) (nodes : Array Node) (candidates : List Scored) (m : Nat) :
    List Nat :=
  let sorted := choosingOrder candidates
  let taken := takeDiverse (between metric nodes) m [] sorted
  let others := (sorted.map (·.node)).filter fun n => !taken.contains n
  taken ++ others.take (m - taken.length)

end Vicinity.Graph
