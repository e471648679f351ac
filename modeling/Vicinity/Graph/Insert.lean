import Vicinity.Graph.Select
import Vicinity.Dataset

/-!
Building a layered graph, one node after the other. A new node is linked to the nodes that a beam
search finds near it on each of its levels, and they are linked back to it. A list of links that
becomes too long is chosen anew.
-/

namespace Vicinity.Graph

/-- Where the search on the next level starts: from the nodes found, or from the entry if nothing
was found. -/
def nextEntries (entry : Nat) (found : List Scored) : List Nat :=
  if found.isEmpty then [entry] else found.map (·.node)

/-- The links of a new vector on the levels below `levels`, lowest level first. The searches run
from the highest of them down. -/
def linkLists (metric : Metric) (g : Graph) (vector : Encoded) (entry : Nat) :
    Nat → List Nat → Visited → Option (List (List Nat) × Visited)
  | 0, _, marks => some ([], marks)
  | level + 1, entries, marks => do
    let (found, marks) ←
      searchLevel metric g.nodes vector entries g.config.efConstruction level marks
    let (below, marks) ← linkLists metric g vector entry level (nextEntries entry found) marks
    return (below ++ [selectLinks metric g.nodes found (g.config.maxLinks level)], marks)

/-- A list of links chosen anew if it is longer than `m`, as seen from the vector at its base. -/
def prune (metric : Metric) (nodes : Array Node) (base : Encoded) (m : Nat) (links : List Nat) :
    List Nat :=
  if links.length ≤ m then links
  else
    let scored := links.filterMap fun c => nodes[c]?.map fun n => ⟨metric base n.vector, c⟩
    selectLinks metric nodes scored m

/-- Links a node back to a new one on a level that both reach. -/
def linkBack (metric : Metric) (m level newNode : Nat) (nodes : Array Node) (neighbor : Nat) :
    Array Node :=
  match nodes[neighbor]? with
  | none => nodes
  | some n =>
    match n.links[level]? with
    | none => nodes
    | some links =>
      let links := prune metric nodes n.vector m (links ++ [newNode])
      nodes.setIfInBounds neighbor { n with links := n.links.set level links }

/-- Links the neighbours of a new node back to it, on level `level` and those above. -/
def linkBackAll (metric : Metric) (config : GraphConfig) (newNode : Nat) :
    Nat → List (List Nat) → Array Node → Array Node
  | _, [], nodes => nodes
  | level, links :: rest, nodes =>
    linkBackAll metric config newNode (level + 1) rest
      (links.foldl (linkBack metric (config.maxLinks level) level newNode) nodes)

/-- Adds a node that reaches the given level. The first node has no links and is the entry; a node
that stands higher than all before it becomes the entry. Links and the entry are stored as words of
32 bits, so graphs stay below `2 ^ 32` nodes; the numbers of nodes here know no such bound. -/
def insert (metric : Metric) (g : Graph) (marks : Visited) (e : Entry) (level : Nat) :
    Option (Graph × Visited) :=
  match g.entry with
  | none =>
    some ({ g with
      nodes := g.nodes.push ⟨e.id, e.vector, List.replicate (level + 1) []⟩
      entry := some g.size
      maxLevel := level }, marks)
  | some entry => do
    let newNode := g.size
    let (near, marks) ←
      descend metric g.nodes e.vector level (g.maxLevel - level) entry marks
    let shared := min level g.maxLevel + 1
    let (links, marks) ← linkLists metric g e.vector entry shared [near] marks
    let nodes := g.nodes.push
      ⟨e.id, e.vector, links ++ List.replicate (level + 1 - shared) []⟩
    let nodes := linkBackAll metric g.config newNode 0 links nodes
    return (if g.maxLevel < level then { g with nodes, entry := some newNode, maxLevel := level }
      else { g with nodes }, marks)

/-- Adds entries in order; `levels` gives the level of the node at each position. -/
def insertAll (metric : Metric) (levels : Nat → Nat) :
    Graph → Visited → List Entry → Option (Graph × Visited)
  | g, marks, [] => some (g, marks)
  | g, marks, e :: rest => do
    let (g, marks) ← insert metric g marks e (levels g.size)
    insertAll metric levels g marks rest

def build (metric : Metric) (levels : Nat → Nat) (config : GraphConfig) (entries : List Entry) :
    Option Graph :=
  (insertAll metric levels (empty config) Visited.empty entries).map Prod.fst

end Vicinity.Graph
