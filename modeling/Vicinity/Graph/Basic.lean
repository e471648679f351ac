import Vicinity.Encoded
import Vicinity.Error

/-!
Layered proximity graphs. Every node stands on level zero and on the levels up to its own, and has
one list of links for each of them. Higher levels hold fewer nodes and serve to come near a query
quickly.
-/

namespace Vicinity

abbrev Metric := Encoded → Encoded → Single

/-- How a graph is built and searched: links on a higher level, links on level zero, and the beam
widths of building and of searching. -/
structure GraphConfig where
  m : Nat
  bottomLinks : Nat
  efConstruction : Nat
  efSearch : Nat
  deriving DecidableEq, Repr

namespace GraphConfig

/-- Links of a node where the caller does not say. -/
def standardM : Nat := 16

/-- Beam width of building where the caller does not say. -/
def standardEfConstruction : Nat := 200

/-- Beam width of searching where the caller does not say. -/
def standardEfSearch : Nat := 100

def standard : GraphConfig :=
  ⟨standardM, 2 * standardM, standardEfConstruction, standardEfSearch⟩

/-- The longest list of links that a level allows. -/
def maxLinks (c : GraphConfig) (level : Nat) : Nat :=
  if level = 0 then c.bottomLinks else c.m

end GraphConfig

/-- A node: its id and vector, and the nodes that it links to, level by level. -/
structure Node where
  id : Int
  vector : Encoded
  links : List (List Nat)

/-- The links of a node on a level. A node that does not reach the level has none. -/
def Node.linksOn (n : Node) (level : Nat) : List Nat := n.links[level]?.getD []

/-- A layered graph. Searches start at `entry` and descend from `maxLevel`. -/
structure Graph where
  config : GraphConfig
  nodes : Array Node
  entry : Option Nat
  maxLevel : Nat

namespace Graph

def empty (config : GraphConfig) : Graph := ⟨config, #[], none, 0⟩

def size (g : Graph) : Nat := g.nodes.size

/-- The first node with a link past the last node. -/
def firstLooseNode (g : Graph) : Option Node :=
  g.nodes.toList.find? fun n => n.links.any fun links => links.any fun l => g.size ≤ l

/-- Refuses a graph whose entry or links point nowhere. Nothing else is asked of it. -/
def checkIntegrity (g : Graph) : Except Error Unit :=
  let links : Except Error Unit :=
    match g.firstLooseNode with
    | some n => .error (.index (.linkPastEnd n.id g.size))
    | none => .ok ()
  match g.entry with
  | some e => if g.size ≤ e then .error (.index (.entryPastEnd e g.size)) else links
  | none => if 0 < g.size then .error (.index .noEntry) else links

end Graph

end Vicinity
