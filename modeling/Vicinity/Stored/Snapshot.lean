import Vicinity.Stored.Vector
import Vicinity.Graph.Basic

/-!
What index files hold: the name of the space, and either the stored vectors or the whole graph.
-/

namespace Vicinity

open Json (Term Value Fields)

/-- An index file of stored vectors. -/
structure EntrySnapshot where
  space : String
  entries : List Entry

namespace EntrySnapshot

def toJson (s : EntrySnapshot) : Value :=
  .object [("space", .string s.space), ("objects", .array (s.entries.map Entry.toJson))]

def ofTerm? (t : Term) : Option EntrySnapshot := do
  let fs ← t.fields? ["space", "objects"]
  let space ← fs.required 0 Term.text?
  let entries ← fs.required 1 (Term.items? Entry.ofTerm?)
  return ⟨space, entries⟩

def render (s : EntrySnapshot) : String := s.toJson.compact

def ofText? (text : String) : Option EntrySnapshot := Term.ofText? text >>= ofTerm?

end EntrySnapshot

namespace GraphConfig

def toJson (c : GraphConfig) : Value :=
  .object [("m", .nat c.m), ("m_max0", .nat c.bottomLinks),
    ("ef_construction", .nat c.efConstruction), ("ef_search", .nat c.efSearch)]

def ofTerm? (t : Term) : Option GraphConfig := do
  let fs ← t.fields? ["m", "m_max0", "ef_construction", "ef_search"]
  let m ← fs.required 0 Term.word?
  let bottomLinks ← fs.required 1 Term.word?
  let efConstruction ← fs.required 2 Term.word?
  let efSearch ← fs.required 3 Term.word?
  return ⟨m, bottomLinks, efConstruction, efSearch⟩

end GraphConfig

namespace Node

def toJson (n : Node) : Value :=
  .object [("id", .int n.id), ("vector", n.vector.toJson),
    ("links", .array (n.links.map fun links => .array (links.map .nat)))]

def ofTerm? (t : Term) : Option Node := do
  let fs ← t.fields? ["id", "vector", "links"]
  let id ← fs.required 0 Term.integer?
  let vector ← fs.required 1 (Encoded.ofTerm? 3)
  let links ← fs.required 2 (Term.items? (Term.items? Term.halfWord?))
  return ⟨id, vector, links⟩

end Node

/-- An index file of a graph. -/
structure GraphSnapshot where
  space : String
  graph : Graph

namespace GraphSnapshot

def toJson (s : GraphSnapshot) : Value :=
  .object [("space", .string s.space), ("config", s.graph.config.toJson),
    ("entry_point", Value.ofOption .nat s.graph.entry), ("max_level", .nat s.graph.maxLevel),
    ("nodes", .array (s.graph.nodes.toList.map Node.toJson))]

/-- The entry of a graph: an object may leave it out, an array may not. -/
def entryField (fs : Fields) : Option (Option Nat) :=
  if fs.byPosition then fs.required 2 (Term.optional? Term.halfWord?)
  else fs.withDefault 2 none (Term.optional? Term.halfWord?)

def ofTerm? (t : Term) : Option GraphSnapshot := do
  let fs ← t.fields? ["space", "config", "entry_point", "max_level", "nodes"]
  let space ← fs.required 0 Term.text?
  let config ← fs.required 1 GraphConfig.ofTerm?
  let entry ← entryField fs
  let maxLevel ← fs.required 3 Term.word?
  let nodes ← fs.required 4 (Term.items? Node.ofTerm?)
  return ⟨space, ⟨config, nodes.toArray, entry, maxLevel⟩⟩

def render (s : GraphSnapshot) : String := s.toJson.compact

def ofText? (text : String) : Option GraphSnapshot := Term.ofText? text >>= ofTerm?

end GraphSnapshot

end Vicinity
