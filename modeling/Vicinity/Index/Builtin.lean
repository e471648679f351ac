import Vicinity.Index.Exact
import Vicinity.Index.Layered
import Vicinity.Index.Dense

/-!
The backends that come with the library, chosen by name.
-/

namespace Vicinity

open Json (Term Value)

/-- A built-in backend. -/
inductive BackendKind where
  | layered
  | exact
  | dense
  deriving DecidableEq, Repr

namespace BackendKind

def all : List BackendKind := [layered, exact, dense]

def name : BackendKind → String
  | layered => "hnsw"
  | exact => "exact"
  | dense => "usearch"

def standard : BackendKind := layered

/-- The backend of the given name; blanks around it and the case of letters do not matter. -/
def ofName (name : String) : Except Error BackendKind :=
  let folded := Text.foldCase (Text.trim name)
  match all.find? fun k => k.name == folded with
  | some k => .ok k
  | none => .error (.badArgument (.unknownBackend folded))

def toJson (k : BackendKind) : Value := .string k.name

/-- The backend of a JSON text. The name has to be spelled exactly. -/
def ofTerm? (t : Term) : Option BackendKind :=
  t.choice? >>= fun name => all.find? fun k => k.name == name

end BackendKind

/-- An index of a built-in backend. -/
inductive BuiltinIndex where
  | layered (ix : LayeredIndex)
  | exact (ix : ExactIndex)
  | dense (ix : DenseIndex)

namespace BuiltinIndex

def create (m : MetricSpace) : BackendKind → Except Error BuiltinIndex
  | .layered => .ok (.layered (LayeredIndex.fresh m))
  | .exact => .ok (.exact (ExactIndex.fresh m))
  | .dense => (DenseIndex.checkSpace m.space).map fun _ => .dense ⟨m.space, none, []⟩

def construct (m : MetricSpace) (dataset : Dataset) (params : Params) :
    BuiltinIndex → Except Error Unit × BuiltinIndex
  | layered ix => (ix.construct m dataset params).map id layered
  | exact ix => (ix.construct dataset params).map id exact
  | dense ix => (ix.construct dataset params).map id dense

def size : BuiltinIndex → Nat
  | layered ix => ix.graph.size
  | exact ix => ix.entries.length
  | dense ix => ix.size

def save (ix : BuiltinIndex) (path : String) (fs : Files) : Except Error Unit × Files :=
  match ix with
  | layered ix => ix.save path fs
  | exact ix => ix.save path fs
  | dense ix => ix.save path fs

def load (m : MetricSpace) (path : String) (fs : Files) :
    BuiltinIndex → Except Error Unit × BuiltinIndex
  | layered ix => (ix.load m path fs).map id layered
  | exact ix => (ix.load m path fs).map id exact
  | dense ix => (ix.load path fs).map id dense

def setParams (params : Params) : BuiltinIndex → Except Error Unit × BuiltinIndex
  | layered ix => (ix.setParams params).map id layered
  | exact ix => (ix.setParams params).map id exact
  | dense ix => (ix.setParams params).map id dense

/-- Searches an index; the table of a dense one is searched in the given way. -/
def searchBy (table : TableSearch) (m : MetricSpace) (q : Query) :
    BuiltinIndex → Except Error TopK
  | layered ix => ix.search m q
  | exact ix => .ok (ix.search m q)
  | dense ix => ix.searchBy table q

def search (m : MetricSpace) (q : Query) (ix : BuiltinIndex) : Except Error TopK :=
  ix.searchBy DenseTable.scan m q

end BuiltinIndex

def BackendKind.backend (k : BackendKind) : Backend BuiltinIndex where
  name := k.name
  createSpace s :=
    match k with
    | .dense => (DenseIndex.checkSpace s).map fun _ => MetricSpace.standard s
    | _ => .ok (MetricSpace.standard s)
  createIndex m := BuiltinIndex.create m k
  construct := BuiltinIndex.construct
  size := BuiltinIndex.size
  save := BuiltinIndex.save
  load m path _ fs ix := ix.load m path fs
  setParams := BuiltinIndex.setParams
  search := BuiltinIndex.search

end Vicinity
