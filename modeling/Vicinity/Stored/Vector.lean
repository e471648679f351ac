import Vicinity.Dataset
import Vicinity.TopK
import Vicinity.Json.Fields
import Vicinity.Json.Printer

/-!
The JSON forms of vectors, entries and neighbours. An encoded vector is tagged with its kind; the
tag may come before or after the data.
-/

namespace Vicinity

open Json (Term Value Fields)

namespace Space

def toJson (s : Space) : Value := .string s.name

/-- The space of a JSON text. The name has to be spelled exactly. -/
def ofTerm? (t : Term) : Option Space :=
  t.choice? >>= fun name => all.find? fun s => s.name == name

end Space

namespace Encoding

def tag : Encoding → String
  | dense => "dense"
  | sparse => "sparse_set"
  | bits => "bitset"

def ofTag? (tag : String) : Option Encoding :=
  [dense, sparse, bits].find? fun e => e.tag == tag

end Encoding

namespace PackedBits

def toJson (b : PackedBits) : Value :=
  .object [("words", .array (b.words.map fun w => .nat w.toNat))]

def ofTerm? (t : Term) : Option PackedBits := do
  let fs ← t.fields? ["words"]
  let words ← fs.required 0 (Term.items? Term.halfWord?)
  return ⟨words.map UInt32.ofNat⟩

end PackedBits

namespace Encoded

def dataJson : Encoded → Value
  | dense values => .array (values.map .single)
  | sparse indices => .array (indices.map fun i => .nat i.toNat)
  | bits packed => packed.toJson

def toJson (v : Encoded) : Value :=
  .object [("kind", .string v.encoding.tag), ("data", v.dataJson)]

def ofData? (e : Encoding) (t : Term) : Option Encoded :=
  match e with
  | .dense => (t.items? Term.single?).map dense
  | .sparse => (t.items? Term.halfWord?).map fun indices => sparse (indices.map UInt32.ofNat)
  | .bits => (PackedBits.ofTerm? t).map bits

/-- Whether the data of an object stand before their tag. They are then kept aside until the tag
is known, and everything in them has to be in order, used or not. -/
def dataFirst (members : List (Option String × Term)) : Bool :=
  match members.find? fun m => m.1 == some "kind" || m.1 == some "data" with
  | some (some name, _) => name == "data"
  | _ => false

/-- An encoded vector that stands in a JSON text within `outer` other values. By position the tag
has to be a string. -/
def ofTerm? (outer : Nat) (t : Term) : Option Encoded := do
  let fs ← t.fields? ["kind", "data"]
  let encoding ← fs.required 0 fun kind =>
    (if fs.byPosition then kind.text? else kind.choice?) >>= Encoding.ofTag?
  let data ← fs.term? 1
  let ready : Bool := match t with
    | .object members =>
      !dataFirst members || (data.value? (Json.maxDepth - 1 - outer)).isSome
    | _ => true
  if ready then ofData? encoding data else none

end Encoded

namespace Entry

/-- The JSON form of a stored vector with its id. -/
def toJson (e : Entry) : Value := .object [("id", .int e.id), ("vector", e.vector.toJson)]

/-- A stored vector with its id from a JSON text, in which it is an item of a list of the whole. -/
def ofTerm? (t : Term) : Option Entry := do
  let fs ← t.fields? ["id", "vector"]
  let id ← fs.required 0 Term.integer?
  let vector ← fs.required 1 (Encoded.ofTerm? 3)
  return ⟨id, vector⟩

end Entry

namespace VectorRecord

def toJson (r : VectorRecord) : Value :=
  .object [("id", .int r.id), ("vector", .array (r.vector.map .single))]

def ofTerm? (t : Term) : Option VectorRecord := do
  let fs ← t.fields? ["id", "vector"]
  let id ← fs.required 0 Term.integer?
  let vector ← fs.required 1 (Term.items? Term.single?)
  return ⟨id, vector⟩

def listOfText? (text : String) : Option (List VectorRecord) :=
  Term.ofText? text >>= Term.items? ofTerm?

end VectorRecord

namespace Neighbor

def toJson (n : Neighbor) : Value :=
  .object [("id", .int n.id), ("distance", .single n.distance)]

def ofTerm? (t : Term) : Option Neighbor := do
  let fs ← t.fields? ["id", "distance"]
  let id ← fs.required 0 Term.integer?
  let distance ← fs.required 1 Term.single?
  return ⟨id, distance⟩

end Neighbor

end Vicinity
