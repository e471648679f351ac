import Vicinity.Host.Handles
import Vicinity.Host.Params
import Vicinity.Json.Fields

/-!
What a host can ask for: build an index, load it and get a number for it, query it by its number,
free the number again, and warm up a list of indexes, each file of which is loaded once.
-/

namespace Vicinity.Host

open Json (Term Value)

/-- What a host works on: the loaded indexes and the world. -/
structure State (σ : Type) where
  handles : HandleTable σ
  world : World

/-- Builds the index that a build map asks for. -/
def build (b : Backend σ) (ids : List Int) (vectors : List RawVector) (map : Value)
    (output : String) : Action Manifest := do
  let request ← ofExcept (BuildRequest.ofJson map)
  Engine.build b ids vectors request.space request.params output

def register (b : Backend σ) (path : String) (request : LoadRequest) (s : State σ) :
    Except Error Nat × State σ :=
  match Engine.load b path request.space request.params s.world with
  | (.error e, world) => (.error e, { s with world := world })
  | (.ok loaded, world) =>
    let (handle, handles) := s.handles.insert loaded (world.files.normalize path)
    (.ok handle, ⟨handles, world⟩)

/-- Loads the index that a load map asks for and gives it a number. -/
def load (b : Backend σ) (path : String) (map : Value) (s : State σ) :
    Except Error Nat × State σ :=
  match LoadRequest.ofJson map with
  | .error e => (.error e, s)
  | .ok request => register b path request s

/-- The nearest neighbours of a vector in the index with a number. -/
def query (handles : HandleTable σ) (handle : Nat) (raw : RawVector) (k : Int) :
    Except Error (List Neighbor) :=
  if k ≤ 0 then .error (.badArgument (.notPositiveValue "k" (Number.integerText k)))
  else do
    let loaded ← handles.get handle
    loaded.query raw k.toNat

/-- Frees a number. Zero is never given to an index, and freeing it does nothing. -/
def free (handles : HandleTable σ) (handle : Nat) : Except Error (HandleTable σ) :=
  if handle = 0 then .ok handles else handles.remove handle

/-- An index to be loaded ahead of its use. -/
structure WarmupEntry where
  path : String
  spaceType : String
  deriving DecidableEq, Repr

def WarmupEntry.ofTerm? (t : Term) : Option WarmupEntry := do
  let fs ← t.fields? ["path", "spaceType"]
  let path ← fs.required 0 Term.text?
  let spaceType ← fs.required 1 Term.text?
  return ⟨path, spaceType⟩

/-- The number of an index, which is loaded if its file is not. -/
def warm (b : Backend σ) (entry : WarmupEntry) (s : State σ) : Except Error Nat × State σ :=
  match Space.ofName entry.spaceType with
  | .error e => (.error e, s)
  | .ok space =>
    match s.handles.findByPath? (s.world.files.normalize entry.path) with
    | some (handle, loaded) =>
      if loaded.space = space then (.ok handle, s)
      else (.error (.spaceMismatch loaded.space space), s)
    | none => register b entry.path ⟨space, QueryParams.unset⟩ s

/-- The numbers of several indexes in their order. Those before one that fails stay loaded. -/
def warmup (b : Backend σ) : List WarmupEntry → State σ → Except Error (List Nat) × State σ
  | [], s => (.ok [], s)
  | entry :: rest, s =>
    match warm b entry s with
    | (.error e, s) => (.error e, s)
    | (.ok handle, s) =>
      match warmup b rest s with
      | (.error e, s) => (.error e, s)
      | (.ok handles, s) => (.ok (handle :: handles), s)

end Vicinity.Host
