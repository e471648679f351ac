import Vicinity.Encoded

/-!
A batch of vectors ready to be indexed. A batch is checked as a whole before its first vector is
encoded, and the first check that fails names the error.
-/

namespace Vicinity

/-- A vector with its id, as input files list it. -/
structure VectorRecord where
  id : Int
  vector : RawVector

/-- A stored vector with its id. -/
structure Entry where
  id : Int
  vector : Encoded

/-- An accepted batch. -/
structure Dataset where
  space : Space
  dimension : Nat
  entries : List Entry

def firstRepeated (seen : List Int) : List Int → Option Int
  | [] => none
  | id :: rest => if id ∈ seen then some id else firstRepeated (id :: seen) rest

namespace Dataset

/-- The dimension of a batch, or the first reason to refuse it. -/
def checkShape (space : Space) (ids : List Int) (vectors : List RawVector) :
    Except Error Nat :=
  if ids.length ≠ vectors.length then
    .error (.dimensionMismatch .idsAndVectors ids.length vectors.length)
  else
    match vectors with
    | [] => .error (.badArgument .emptyBatch)
    | first :: _ =>
      let dimension := first.length
      match vectors.find? fun v => v.length != dimension with
      | some other => .error (.dimensionMismatch .vectorLengths dimension other.length)
      | none =>
        match if space.encoding = .bits then checkBitDimension dimension else .ok () with
        | .error e => .error e
        | .ok () =>
          match firstRepeated [] ids with
          | some id => .error (.badArgument (.duplicateId id))
          | none => .ok dimension

/-- Encodes each vector under its id, in order. -/
def encodeAll (space : Space) : List Int → List RawVector → Except Error (List Entry)
  | id :: ids, raw :: vectors =>
    match space.encode raw with
    | .error e => .error e
    | .ok vector => (encodeAll space ids vectors).map (⟨id, vector⟩ :: ·)
  | _, _ => .ok []

/-- Checks a batch and encodes it for a space. -/
def build (space : Space) (ids : List Int) (vectors : List RawVector) : Except Error Dataset :=
  match checkShape space ids vectors with
  | .error e => .error e
  | .ok dimension => (encodeAll space ids vectors).map (⟨space, dimension, ·⟩)

def ofRecords (space : Space) (records : List VectorRecord) : Except Error Dataset :=
  build space (records.map (·.id)) (records.map (·.vector))

def size (d : Dataset) : Nat := d.entries.length

end Dataset

end Vicinity
