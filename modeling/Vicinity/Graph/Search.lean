import Vicinity.Graph.Basic
import Vicinity.Graph.Visited
import Vicinity.TopK

/-!
Beam search on a layered graph. On one level the search keeps the nearest nodes it has found, at
most as many as the beam is wide, and goes on from the nearest node it has not yet gone on from.
It stops when that node is farther than everything kept.
-/

namespace Vicinity.Graph

/-- A node at a distance from what is sought. -/
structure Scored where
  distance : Single
  node : Nat

/-- Whether one node ranks strictly before another: by distance, then by number. -/
def Scored.before (a b : Scored) : Bool :=
  a.distance.rankKey < b.distance.rankKey ||
    (a.distance.rankKey == b.distance.rankKey && a.node < b.node)

/-- Puts a node in its place among others that stand nearest first. -/
def insertNearest (s : Scored) (others : List Scored) : List Scored :=
  place Scored.before s others

/-- Puts a node in its place among others that stand farthest first. -/
def insertFarthest (s : Scored) (others : List Scored) : List Scored :=
  place (fun t s => s.before t) s others

/-- The state of a beam search: nodes to go on from, nearest first; nodes kept, farthest first;
and the nodes seen. -/
structure Beam where
  pending : List Scored
  kept : List Scored
  seen : Visited

namespace Beam

def start (seen : Visited) : Beam := ⟨[], [], seen⟩

/-- Rank of the farthest node kept; past every number if there is none. -/
def worstKey (b : Beam) : Nat :=
  match b.kept with
  | [] => Single.infinity.rankKey
  | s :: _ => s.distance.rankKey

/-- Keeps a node and plans to go on from it. A beam that becomes too wide loses its farthest
node. -/
def keep (width : Nat) (b : Beam) (s : Scored) : Beam :=
  let kept := insertFarthest s b.kept
  { b with
    pending := insertNearest s b.pending
    kept := if width < kept.length then kept.tail else kept }

/-- Looks at a node unless it has been seen, and keeps it if `wanted` says so of its distance. There
is no result where the graph does not have the node. -/
def visit (metric : Metric) (nodes : Array Node) (query : Encoded) (width : Nat)
    (wanted : Beam → Single → Bool) (b : Beam) (node : Nat) : Option Beam :=
  match nodes[node]? with
  | none => none
  | some n =>
    match b.seen.insert node with
    | (false, _) => some b
    | (true, seen) =>
      let distance := metric query n.vector
      let b := { b with seen }
      some (if wanted b distance then b.keep width ⟨distance, node⟩ else b)

/-- Whether a neighbour at a distance is worth keeping. -/
def hasRoomFor (width : Nat) (b : Beam) (distance : Single) : Bool :=
  b.kept.length < width || distance.rankKey < b.worstKey

/-- Whether a full beam has nothing to gain from a node and from those that are farther. -/
def isSettled (width : Nat) (b : Beam) (s : Scored) : Bool :=
  width ≤ b.kept.length && b.worstKey < s.distance.rankKey

/-- Goes on from the nearest pending node, until none is left that could improve a full beam. There
is no result where a node is missing or where the given number of steps is not enough. -/
def expand (metric : Metric) (nodes : Array Node) (query : Encoded) (width level : Nat) :
    Nat → Beam → Option Beam
  | steps, b =>
    match b.pending with
    | [] => some b
    | s :: pending =>
      if b.isSettled width s then some b
      else
        match steps with
        | 0 => none
        | steps + 1 => do
          let n ← nodes[s.node]?
          let b ← (n.linksOn level).foldlM (visit metric nodes query width (hasRoomFor width))
            { b with pending }
          expand metric nodes query width level steps b

end Beam

/-- The nearest nodes that can be reached on a level from the given ones, nearest first: at most
`ef` of them, and at least one if there is one. Every node is gone on from at most once, so as
many steps as there are nodes are enough. The marks of searches before are reused and handed on.
There is no result where a node is looked at that the graph does not have. -/
def searchLevel (metric : Metric) (nodes : Array Node) (query : Encoded) (entries : List Nat)
    (ef level : Nat) (marks : Visited) : Option (List Scored × Visited) := do
  let width := max 1 (min ef nodes.size)
  let begun ← entries.foldlM (Beam.visit metric nodes query width fun _ _ => true)
    (Beam.start (marks.reset nodes.size))
  let ended ← begun.expand metric nodes query width level nodes.size
  return (ended.kept.reverse, ended.seen)

/-- The node nearest to a query among those found; the node that the search started from if nothing
was found. -/
def nearestOr (node : Nat) : List Scored → Nat
  | [] => node
  | s :: _ => s.node

/-- Comes nearer to a query on each of `steps` levels above `floor`, from the highest down. -/
def descend (metric : Metric) (nodes : Array Node) (query : Encoded) (floor : Nat) :
    Nat → Nat → Visited → Option (Nat × Visited)
  | 0, node, marks => some (node, marks)
  | steps + 1, node, marks => do
    let (found, marks) ← searchLevel metric nodes query [node] 1 (floor + steps + 1) marks
    descend metric nodes query floor steps (nearestOr node found) marks

/-- The neighbour that a node found is: its id, at the distance found. -/
def neighborAt (nodes : Array Node) (s : Scored) : Option Neighbor :=
  nodes[s.node]?.map fun n => ⟨n.id, s.distance⟩

/-- The neighbours of a query. The beam on level zero is as wide as the larger of `efSearch` and
`k`, and never wider than the graph is large. There is no result where the search looks at a node
that the graph does not have. -/
def search (metric : Metric) (g : Graph) (query : Encoded) (k : Nat) : Option TopK :=
  match g.entry with
  | none => some (TopK.empty k)
  | some entry =>
    if k = 0 then some (TopK.empty k)
    else do
      let (node, marks) ← descend metric g.nodes query 0 g.maxLevel entry Visited.empty
      let ef := min (max g.config.efSearch k) g.size
      let (found, _) ← searchLevel metric g.nodes query [node] ef 0 marks
      let neighbors ← found.mapM (neighborAt g.nodes)
      return (TopK.empty k).pushAll neighbors

end Vicinity.Graph
