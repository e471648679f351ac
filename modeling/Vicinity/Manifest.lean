import Vicinity.Files
import Vicinity.Params
import Vicinity.Stored.Vector

/-!
The manifest beside an index file. It says how the index was built, so that a load can be refused
before the index file is touched.
-/

namespace Vicinity

open Json (Term Value Fields)

namespace BuildParams

/-- The members for the parameters that are present. -/
def optionalMember (name : String) (value : Option Nat) : List (String × Value) :=
  match value with
  | some n => [(name, .nat n)]
  | none => []

/-- The JSON form; absent parameters are left out. -/
def toJson (p : BuildParams) : Value :=
  .object (optionalMember "ef_construction" p.efConstruction ++ optionalMember "m" p.m ++
    optionalMember "thread_count" p.threadCount)

def ofTerm? (t : Term) : Option BuildParams := do
  let fs ← t.fields? ["ef_construction", "m", "thread_count"]
  let efConstruction ← fs.withDefault 0 none (Term.optional? Term.word?)
  let m ← fs.withDefault 1 none (Term.optional? Term.word?)
  let threadCount ← fs.withDefault 2 none (Term.optional? Term.word?)
  return ⟨efConstruction, m, threadCount⟩

end BuildParams

namespace QueryParams

/-- The JSON form; an absent parameter is left out. -/
def toJson (p : QueryParams) : Value :=
  .object (BuildParams.optionalMember "ef_search" p.efSearch)

def ofTerm? (t : Term) : Option QueryParams := do
  let fs ← t.fields? ["ef_search"]
  let efSearch ← fs.withDefault 0 none (Term.optional? Term.word?)
  return ⟨efSearch⟩

end QueryParams

/-- How an index was built. `createdAt` counts milliseconds since the start of 1970. -/
structure Manifest where
  formatVersion : Nat
  space : Space
  dimension : Nat
  vectorCount : Nat
  backend : String
  buildParams : BuildParams
  createdAt : Int
  deriving DecidableEq, Repr

namespace Manifest

/-- The version of the layout written. Newer layouts are refused. -/
def currentVersion : Nat := 1

def pathFor (indexPath : String) : String := indexPath ++ ".manifest.json"

def toJson (m : Manifest) : Value :=
  .object [("format_version", .nat m.formatVersion), ("space_type", m.space.toJson),
    ("dimension", .nat m.dimension), ("vector_count", .nat m.vectorCount),
    ("backend", .string m.backend), ("build_params", m.buildParams.toJson),
    ("created_at", .int m.createdAt)]

def ofTerm? (t : Term) : Option Manifest := do
  let fs ← t.fields? ["format_version", "space_type", "dimension", "vector_count", "backend",
    "build_params", "created_at"]
  let formatVersion ← fs.required 0 Term.halfWord?
  let space ← fs.required 1 Space.ofTerm?
  let dimension ← fs.required 2 Term.word?
  let vectorCount ← fs.required 3 Term.word?
  let backend ← fs.required 4 Term.text?
  let buildParams ← fs.withDefault 5 BuildParams.unset BuildParams.ofTerm?
  let createdAt ← fs.required 6 Term.integer?
  return ⟨formatVersion, space, dimension, vectorCount, backend, buildParams, createdAt⟩

def ofText? (text : String) : Option Manifest := Term.ofText? text >>= ofTerm?

def write (m : Manifest) (indexPath : String) (fs : Files) : Except Error Files :=
  match fs.write (pathFor indexPath) m.toJson.pretty with
  | .error e => .error (.file e)
  | .ok fs => .ok fs

def read (indexPath : String) (fs : Files) : Except Error Manifest :=
  match fs.read (pathFor indexPath) with
  | .error e => .error (.file e)
  | .ok text =>
    match ofText? text with
    | none => .error .malformedData
    | some m =>
      if currentVersion < m.formatVersion then
        .error (.badArgument (.newerManifest m.formatVersion currentVersion))
      else .ok m

/-- Refuses a load that asks for another space or another backend. -/
def validate (m : Manifest) (requested : Space) (backend : String) : Except Error Unit :=
  if m.space ≠ requested then .error (.spaceMismatch m.space requested)
  else if m.backend ≠ backend then .error (.badArgument (.otherBackend m.backend backend))
  else .ok ()

end Manifest

end Vicinity
