import Vicinity.Index.Seam
import Vicinity.Stored.Snapshot
import Vicinity.Graph.Insert
import Vicinity.Graph.Level

/-!
The index over a layered proximity graph. It works for every space; the graph that it builds from
a batch is always the same, because the levels of nodes come from a fixed stream.
-/

namespace Vicinity

/-- A graph, and the space it was created for. -/
structure LayeredIndex where
  space : Space
  graph : Graph

namespace LayeredIndex

def fresh (m : MetricSpace) : LayeredIndex := ⟨m.space, Graph.empty GraphConfig.standard⟩

def withConfig (ix : LayeredIndex) (config : GraphConfig) : LayeredIndex :=
  { ix with graph := { ix.graph with config } }

/-- The greatest number of bytes that one block of memory can have. -/
def maxBlock : Nat := Nat.pow 2 63 - 1

/-- Whether the lists of links of a graph fit in memory: each is laid out in one block, with four
bytes for each link that it may hold. The first node alone has no such list. -/
def linksFit (bottomLinks nodeCount : Nat) : Bool :=
  nodeCount < 2 || 4 * bottomLinks ≤ maxBlock

/-- Builds the graph over a dataset in place of the one held; `levels` gives the level of each node
for the number of links. Each parameter takes effect as it is read, so one that is refused leaves
those before it changed. -/
def constructWith (levels : Nat → Nat → Nat) (m : MetricSpace) (dataset : Dataset)
    (params : Params) (ix : LayeredIndex) : Except Error Unit × LayeredIndex :=
  match params.checkKnown constructNames with
  | .error e => (.error e, ix)
  | .ok () =>
    match params.getPositive? ParamName.m with
    | .error e => (.error e, ix)
    | .ok given =>
      let links := given.getD GraphConfig.standardM
      if links < 2 then (.error (.index (.tooFewLinks links)), ix)
      else if Number.maxWord < links * 2 then (.error .sizeOverflow, ix)
      else
        let ix := ix.withConfig { ix.graph.config with m := links, bottomLinks := links * 2 }
        match params.getPositive? ParamName.efConstruction with
        | .error e => (.error e, ix)
        | .ok given =>
          let ef := given.getD GraphConfig.standardEfConstruction
          let ix := ix.withConfig { ix.graph.config with efConstruction := ef }
          match params.getPositive? ParamName.threadCount with
          | .error e => (.error e, ix)
          | .ok _ =>
            if linksFit (links * 2) dataset.size then
              match Graph.build m.dist (levels links) ix.graph.config dataset.entries with
              | some graph => (.ok (), { ix with graph })
              | none => (.error .nodeOutOfRange, ix)
            else (.error .sizeOverflow, ix)

/-- Builds the graph over a dataset, with levels from the fixed stream. -/
def construct (m : MetricSpace) (dataset : Dataset) (params : Params) (ix : LayeredIndex) :
    Except Error Unit × LayeredIndex :=
  ix.constructWith Level.ofNode m dataset params

def save (ix : LayeredIndex) (path : String) (fs : Files) : Except Error Unit × Files :=
  writeFile fs path (GraphSnapshot.render ⟨ix.space.storedName, ix.graph⟩)

/-- Takes in the graph of an index file in place of the one held. The graph is checked after it
has been taken in. -/
def load (m : MetricSpace) (path : String) (fs : Files) (ix : LayeredIndex) :
    Except Error Unit × LayeredIndex :=
  match readFile fs path GraphSnapshot.ofText? with
  | .error e => (.error e, ix)
  | .ok s =>
    if s.space ≠ m.space.storedName then
      (.error (.index (.otherSpace s.space m.space.storedName)), ix)
    else (s.graph.checkIntegrity, { ix with graph := s.graph })

def setParams (params : Params) (ix : LayeredIndex) : Except Error Unit × LayeredIndex :=
  match params.checkKnown searchNames with
  | .error e => (.error e, ix)
  | .ok () =>
    match params.getPositive? ParamName.efSearch with
    | .error e => (.error e, ix)
    | .ok none => (.ok (), ix)
    | .ok (some ef) => (.ok (), ix.withConfig { ix.graph.config with efSearch := ef })

def search (m : MetricSpace) (q : Query) (ix : LayeredIndex) : Except Error TopK :=
  match Graph.search m.dist ix.graph q.vector q.k with
  | some found => .ok found
  | none => .error .nodeOutOfRange

end LayeredIndex

end Vicinity
