import Vicinity.Error
import Vicinity.Number.Literal

/-!
Tuning parameters, typed as callers give them and as `name=value` pairs for a backend. Only what
is present is passed on, so an absent value always means the backend's own choice.
-/

namespace Vicinity

namespace ParamName

def efConstruction : String := "efConstruction"

def m : String := "M"

def threadCount : String := "indexThreadQty"

def efSearch : String := "efSearch"

end ParamName

/-- Parameters of a backend in the order given. A name may occur more than once; the last one
counts. -/
structure Params where
  entries : List (String × String)
  deriving DecidableEq, Repr

namespace Params

def empty : Params := ⟨[]⟩

def push (p : Params) (name value : String) : Params := ⟨p.entries ++ [(name, value)]⟩

/-- The text of a pair at its first `=`. -/
def splitPair (item : List Char) : Option (List Char × List Char) :=
  if '=' ∈ item then some (item.takeWhile (· ≠ '='), (item.dropWhile (· ≠ '=')).drop 1) else none

/-- One parameter from `name=value`; blanks around both parts do not count. -/
def readPair (item : String) : Except Error (String × String) :=
  match splitPair item.toList with
  | none => .error (.badArgument (.malformedParameter item))
  | some (name, value) =>
    let name := Text.trimList name
    if name.isEmpty then .error (.badArgument (.unnamedParameter item))
    else .ok (String.ofList name, String.ofList (Text.trimList value))

/-- Parameters from `name=value` items; the first item that is none is the error. -/
def ofItems : List String → Except Error Params
  | [] => .ok empty
  | item :: rest =>
    match readPair item with
    | .error e => .error e
    | .ok pair => (ofItems rest).map fun p => ⟨pair :: p.entries⟩

def get? (p : Params) (name : String) : Option String :=
  (p.entries.reverse.find? fun e => e.1 == name).map (·.2)

/-- The value of a parameter that has to be a positive integer. -/
def getPositive? (p : Params) (name : String) : Except Error (Option Nat) :=
  match p.get? name with
  | none => .ok none
  | some raw =>
    match Number.word? raw with
    | some (n + 1) => .ok (some (n + 1))
    | _ => .error (.index (.badParameter name raw))

/-- The names, in the order given. -/
def names (p : Params) : List String := p.entries.map (·.1)

def checkKnown (p : Params) (known : List String) : Except Error Unit :=
  match p.names.find? fun name => !known.contains name with
  | some name => .error (.index (.unknownParameter name))
  | none => .ok ()

/-- The parameters as `name=value`, separated by commas. -/
def render (p : Params) : String :=
  ",".intercalate (p.entries.map fun e => e.1 ++ "=" ++ e.2)

def size (p : Params) : Nat := p.entries.length

/-- One parameter if there is a value, else none. -/
def ofOption (name : String) (value : Option Nat) : List (String × String) :=
  match value with
  | some n => [(name, toString n)]
  | none => []

end Params

def requirePositive (name : String) : Option Nat → Except Error Unit
  | some 0 => .error (.badArgument (.notPositive name))
  | _ => .ok ()

/-- How an index is to be built. -/
structure BuildParams where
  efConstruction : Option Nat
  m : Option Nat
  threadCount : Option Nat
  deriving DecidableEq, Repr

namespace BuildParams

def unset : BuildParams := ⟨none, none, none⟩

def validate (p : BuildParams) : Except Error Unit := do
  requirePositive ParamName.efConstruction p.efConstruction
  requirePositive ParamName.m p.m
  requirePositive ParamName.threadCount p.threadCount

/-- The parameters that are present, for a backend. -/
def toParams (p : BuildParams) : Params :=
  ⟨Params.ofOption ParamName.efConstruction p.efConstruction ++
    Params.ofOption ParamName.m p.m ++ Params.ofOption ParamName.threadCount p.threadCount⟩

end BuildParams

/-- How an index is to be searched. -/
structure QueryParams where
  efSearch : Option Nat
  deriving DecidableEq, Repr

namespace QueryParams

def unset : QueryParams := ⟨none⟩

def validate (p : QueryParams) : Except Error Unit :=
  requirePositive ParamName.efSearch p.efSearch

/-- The parameters that are present, for a backend. -/
def toParams (p : QueryParams) : Params :=
  ⟨Params.ofOption ParamName.efSearch p.efSearch⟩

end QueryParams

end Vicinity
