import Vicinity.Manifest
import Vicinity.Graph.Basic
import Vicinity.Distance
import Vicinity.TopK

/-!
What a backend has to offer. A backend makes metric spaces and indexes; an index is built, saved,
loaded, tuned and searched against a metric space that its owner keeps. Operations that change an
index give its state back also where they fail.
-/

namespace Vicinity

/-- A space type with the way its vectors are compared. -/
structure MetricSpace where
  space : Space
  dist : Metric

def MetricSpace.standard (s : Space) : MetricSpace := ⟨s, s.distance⟩

/-- What a search asks for. -/
structure Query where
  vector : Encoded
  k : Nat

def constructNames : List String :=
  [ParamName.efConstruction, ParamName.m, ParamName.threadCount]

def searchNames : List String := [ParamName.efSearch]

/-- The operations of a backend whose indexes have states of type `σ`. -/
structure Backend (σ : Type) where
  name : String
  createSpace : Space → Except Error MetricSpace
  createIndex : MetricSpace → Except Error σ
  construct : MetricSpace → Dataset → Params → σ → Except Error Unit × σ
  size : σ → Nat
  save : σ → String → Files → Except Error Unit × Files
  load : MetricSpace → String → Manifest → Files → σ → Except Error Unit × σ
  setParams : Params → σ → Except Error Unit × σ
  search : MetricSpace → Query → σ → Except Error TopK

namespace Backend

def injected (step : Step) : Error := .index (.injected step)

/-- A backend that fails at one step and does everything else as before. -/
def failingAt (b : Backend σ) (step : Step) : Backend σ :=
  { b with
    createSpace := fun s =>
      if step = .createSpace then .error (injected step) else b.createSpace s
    createIndex := fun m =>
      if step = .createIndex then .error (injected step) else b.createIndex m
    construct := fun m d p ix =>
      if step = .construct then (.error (injected step), ix) else b.construct m d p ix
    save := fun ix path fs =>
      if step = .save then (.error (injected step), fs) else b.save ix path fs
    load := fun m path manifest fs ix =>
      if step = .load then (.error (injected step), ix) else b.load m path manifest fs ix
    setParams := fun p ix =>
      if step = .setParams then (.error (injected step), ix) else b.setParams p ix
    search := fun m q ix =>
      if step = .search then .error (injected step) else b.search m q ix }

/-- A backend whose indexes report one vector too few. -/
def undercounting (b : Backend σ) : Backend σ :=
  { b with size := fun ix => b.size ix - 1 }

end Backend

def writeFile (fs : Files) (path content : String) : Except Error Unit × Files :=
  match fs.write path content with
  | .error e => (.error (.file e), fs)
  | .ok fs => (.ok (), fs)

/-- Reads a file for an index. A directory can be opened, but nothing can be read from it. -/
def readFile (fs : Files) (path : String) (read : String → Option α) : Except Error α :=
  match fs.open? path with
  | .error e => .error (.file e)
  | .ok none => .error .malformedData
  | .ok (some text) =>
    match read text with
    | none => .error .malformedData
    | some a => .ok a

end Vicinity
