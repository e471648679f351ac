import Vicinity.Index.Seam
import Vicinity.Distance
import Vicinity.Json.Fields

/-!
The index for dense vectors that keeps its vectors by position and the ids in a table of their
own. It knows three spaces only. Squared distances and shifted dot products are compared inside
and turned into the space's own distances in the answer.
-/

namespace Vicinity

open Json (Term Value Fields)

/-- Vectors of one dimension, by position. -/
structure DenseTable where
  metric : Space
  dimension : Nat
  vectors : List (List Single)

namespace DenseTable

/-- The JSON form of the file: components stand as bit patterns. -/
def toJson (t : DenseTable) : Value :=
  let vector (v : List Single) : Value := .array (v.map fun x => .nat x.bits.toNat)
  .object [("metric", t.metric.toJson), ("dimension", .nat t.dimension),
    ("vectors", .array (t.vectors.map vector))]

def ofTerm? (t : Term) : Option DenseTable := do
  let fs ← t.fields? ["metric", "dimension", "vectors"]
  let metric ← fs.required 0 Space.ofTerm?
  let dimension ← fs.required 1 Term.word?
  let vectors ← fs.required 2 (Term.items? (Term.items? Term.halfWord?))
  return ⟨metric, dimension, vectors.map fun v => v.map fun w => Single.mk (UInt32.ofNat w)⟩

/-- The comparison made inside: squared distance, one less the cosine, or one less the dot
product. -/
def raw (metric : Space) (a b : List Single) : Single :=
  match metric with
  | .cosine => Distance.cosine a b
  | .innerProduct => 1 - Single.sum 0 (List.zipWith (· * ·) a b)
  | _ => Single.sum 0 (List.zipWith (fun x y => (x - y) * (x - y)) a b)

/-- The positions and raw comparisons of the `k` vectors nearest to a query. Of equally near ones
the later positions come first. -/
def nearest (t : DenseTable) (query : List Single) (k : Nat) : List (Nat × Single) :=
  let all := t.vectors.zipIdx.map fun (v, i) => (i, raw t.metric query v)
  (all.mergeSort fun a b =>
    a.2.rankKey < b.2.rankKey ||
      (a.2.rankKey == b.2.rankKey && b.1 ≤ a.1)).take k

/-- Looks at every vector of a table. A query of another dimension is an error. -/
def scan (t : DenseTable) (query : List Single) (k : Nat) :
    Except Error (List (Nat × Single)) :=
  if query.length ≠ t.dimension then .error (.index (.library .search))
  else .ok (t.nearest query k)

end DenseTable

/-- A way to search a table: the positions of at most `k` vectors near a query, with the raw
comparisons. -/
abbrev TableSearch := DenseTable → List Single → Nat → Except Error (List (Nat × Single))

/-- A table, if one was built or loaded, and the id of each of its vectors. -/
structure DenseIndex where
  space : Space
  table : Option DenseTable
  ids : List Int

namespace DenseIndex

def idsPath (path : String) : String := path ++ ".ids.json"

/-- Whether a space can be searched by this index. -/
def supports : Space → Bool
  | .l2 | .cosine | .innerProduct => true
  | _ => false

def checkSpace (s : Space) : Except Error Unit :=
  if supports s then .ok () else .error (.unsupportedSpace s.name)

def size (ix : DenseIndex) : Nat :=
  match ix.table with
  | none => 0
  | some t => t.vectors.length

/-- The components of all entries, or the error that one of them is not dense. -/
def denseVectors : List Entry → Except Error (List (List Single))
  | [] => .ok []
  | e :: rest =>
    match e.vector.dense? with
    | none => .error (.index .denseVectorsOnly)
    | some v => (denseVectors rest).map (v :: ·)

/-- Checks that parameters are known and that the given ones are positive. -/
def checkPositive (params : Params) (known : List String) (used : List String) :
    Except Error Unit :=
  match params.checkKnown known with
  | .error e => .error e
  | .ok () => used.forM fun name => (params.getPositive? name).map fun _ => ()

/-- Takes in the vectors of a dataset in place of those held. -/
def construct (dataset : Dataset) (params : Params) (ix : DenseIndex) :
    Except Error Unit × DenseIndex :=
  match checkPositive params constructNames
      [ParamName.m, ParamName.efConstruction, ParamName.threadCount] with
  | .error e => (.error e, ix)
  | .ok () =>
    match denseVectors dataset.entries with
    | .error e => (.error e, ix)
    | .ok vectors =>
      (.ok (), { ix with
        table := some ⟨ix.space, dataset.dimension, vectors⟩
        ids := dataset.entries.map (·.id) })

/-- Writes the table and, beside it, the ids. -/
def save (ix : DenseIndex) (path : String) (fs : Files) : Except Error Unit × Files :=
  match ix.table with
  | none => (.error (.index .notReady), fs)
  | some t =>
    match fs.write path t.toJson.compact with
    | .error _ => (.error (.index (.library .save)), fs)
    | .ok fs => writeFile fs (idsPath path) (Value.array (ix.ids.map .int)).compact

/-- Takes in a table and its ids in place of those held. -/
def load (path : String) (fs : Files) (ix : DenseIndex) : Except Error Unit × DenseIndex :=
  match readFile fs path fun text => Term.ofText? text >>= DenseTable.ofTerm? with
  | .error _ => (.error (.index (.library .load)), ix)
  | .ok t =>
    match readFile fs (idsPath path) fun text =>
        Term.ofText? text >>= Term.items? Term.integer? with
    | .error e => (.error e, ix)
    | .ok ids =>
      if ids.length ≠ t.vectors.length then
        (.error (.index (.idCount ids.length t.vectors.length)), ix)
      else (.ok (), { ix with table := some t, ids })

/-- Checks search parameters; none of them changes which vectors are nearest. -/
def setParams (params : Params) (ix : DenseIndex) : Except Error Unit × DenseIndex :=
  (checkPositive params searchNames [ParamName.efSearch], ix)

/-- The space's own distance for a raw comparison. -/
def ownDistance (s : Space) (raw : Single) : Single :=
  match s with
  | .l2 => (raw.max 0).sqrt
  | .innerProduct => raw - 1
  | _ => raw

/-- The neighbour that was found at a position. -/
def neighborAt (ix : DenseIndex) (found : Nat × Single) : Except Error Neighbor :=
  match ix.ids[found.1]? with
  | none => .error (.index (.unknownPosition found.1))
  | some id => .ok ⟨id, ownDistance ix.space found.2⟩

/-- Searches the table in a given way. -/
def searchBy (table : TableSearch) (q : Query) (ix : DenseIndex) : Except Error TopK :=
  match ix.table with
  | none => .error (.index .notReady)
  | some t =>
    match q.vector.dense? with
    | none => .error (.index .denseQueryOnly)
    | some v =>
      let k := min q.k t.vectors.length
      if k = 0 then .ok (TopK.empty q.k)
      else do
        let found ← table t v k
        let neighbors ← found.mapM ix.neighborAt
        return (TopK.empty q.k).pushAll neighbors

def search (q : Query) (ix : DenseIndex) : Except Error TopK := ix.searchBy DenseTable.scan q

end DenseIndex

end Vicinity
