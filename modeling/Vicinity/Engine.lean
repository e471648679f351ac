import Vicinity.Index.Seam

/-!
The life of an index: it is built over a batch and saved with its manifest, loaded from there, and
queried. Building and loading go through a backend in a fixed order of calls, each of which is
noted in a journal before it is made; the first call that fails ends the operation.
-/

namespace Vicinity

/-- A call of a backend that makes, fills, saves, loads or tunes an index. -/
inductive Call where
  | createSpace (space : Space)
  | createIndex (storedName : String)
  | construct (params : Params)
  | save (path : String)
  | load (path : String)
  | setParams (params : Params)
  deriving DecidableEq, Repr

def Call.step : Call → Step
  | createSpace _ => .createSpace
  | createIndex _ => .createIndex
  | construct _ => .construct
  | save _ => .save
  | load _ => .load
  | setParams _ => .setParams

/-- What operations on indexes work on: the files, the time in milliseconds since the start of
1970, and the calls made so far. -/
structure World where
  files : Files
  clock : Int
  journal : List Call

/-- An operation that may fail and may change the world, also where it fails. -/
abbrev Action := ExceptT Error (StateM World)

namespace Action

def note (c : Call) : Action Unit := modify fun w => { w with journal := w.journal ++ [c] }

/-- Notes a call, then gives its result. -/
def call (c : Call) (result : Except Error α) : Action α := do
  note c
  ofExcept result

def reading (f : Files → Except Error α) : Action α := do
  ofExcept (f (← get).files)

/-- Changes the files; what was changed before a failure stays changed. -/
def writing (f : Files → Except Error α × Files) : Action α := do
  let (result, files) := f (← get).files
  modify fun w => { w with files := files }
  ofExcept result

/-- Changes the files, or leaves them as they are where that fails. -/
def replacing (f : Files → Except Error Files) : Action Unit :=
  writing fun fs =>
    match f fs with
    | .ok fs => (.ok (), fs)
    | .error e => (.error e, fs)

end Action

/-- A loaded index with all that queries need: the backend that holds it, its metric space and the
manifest it was loaded under. -/
structure LoadedIndex (σ : Type) where
  backend : Backend σ
  index : σ
  metric : MetricSpace
  manifest : Manifest

namespace Engine

open Vicinity.Action

/-- Builds an index over a batch and saves it at `output` with its manifest beside it. Parameters
and batch are checked before the backend is called, and the manifest is written last. -/
def build (b : Backend σ) (ids : List Int) (vectors : List RawVector) (space : Space)
    (params : BuildParams) (output : String) : Action Manifest := do
  ofExcept params.validate
  let dataset ← ofExcept (Dataset.build space ids vectors)
  let metric ← call (.createSpace space) (b.createSpace space)
  let empty ← call (.createIndex metric.space.storedName) (b.createIndex metric)
  let (outcome, index) := b.construct metric dataset params.toParams empty
  call (.construct params.toParams) outcome
  if b.size index ≠ dataset.size then
    throw (.index (.shortCount b.name (b.size index) dataset.size))
  note (.save output)
  writing (b.save index output)
  let manifest : Manifest :=
    { formatVersion := Manifest.currentVersion, space := space, dimension := dataset.dimension,
      vectorCount := dataset.size, backend := b.name, buildParams := params,
      createdAt := (← get).clock }
  replacing (manifest.write output)
  return manifest

/-- Loads the index saved at `path`. Parameters and manifest are checked before the backend is
called. -/
def load (b : Backend σ) (path : String) (space : Space) (params : QueryParams) :
    Action (LoadedIndex σ) := do
  ofExcept params.validate
  let manifest ← reading (Manifest.read path)
  ofExcept (manifest.validate space b.name)
  let metric ← call (.createSpace space) (b.createSpace space)
  let empty ← call (.createIndex metric.space.storedName) (b.createIndex metric)
  note (.load path)
  let (outcome, index) := b.load metric path manifest (← get).files empty
  ofExcept outcome
  let (outcome, index) := b.setParams params.toParams index
  call (.setParams params.toParams) outcome
  return ⟨b, index, metric, manifest⟩

end Engine

namespace LoadedIndex

def space (h : LoadedIndex σ) : Space := h.manifest.space

/-- The length of the vectors the index was built over. -/
def dimension (h : LoadedIndex σ) : Nat := h.manifest.dimension

def size (h : LoadedIndex σ) : Nat := h.backend.size h.index

def setParams (h : LoadedIndex σ) (params : QueryParams) : Except Error Unit × LoadedIndex σ :=
  match params.validate with
  | .error e => (.error e, h)
  | .ok () =>
    let (outcome, index) := h.backend.setParams params.toParams h.index
    (outcome, { h with index := index })

/-- The `k` nearest neighbours of a vector, nearest first; neighbours at the same distance stand
in the order of their ids. -/
def query (h : LoadedIndex σ) (raw : RawVector) (k : Nat) : Except Error (List Neighbor) :=
  if k = 0 then .error (.badArgument (.notPositive "k"))
  else if h.space.hasFixedDimension ∧ raw.length ≠ h.dimension then
    .error (.dimensionMismatch .queryLength h.dimension raw.length)
  else do
    let vector ← h.space.encode raw
    let found ← h.backend.search h.metric ⟨vector, k⟩ h.index
    return found.toSorted

end LoadedIndex

end Vicinity
