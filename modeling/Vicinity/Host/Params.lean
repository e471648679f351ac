import Vicinity.Params
import Vicinity.Json.Printer

/-!
Parameter maps, in which a host says how an index is to be built or loaded. A build map looks like
`{"spaceType": "l2", "parameters": {"efConstruction": 200, "M": 16}, "indexThreadQty": 4}`, a load
map like `{"spaceType": "l2", "efSearch": 100}`. Only the space type is required.
-/

namespace Vicinity.Host

open Json (Value)

def spaceTypeKey : String := "spaceType"

/-- The member that holds the parameters of the graph. -/
def parametersKey : String := "parameters"

/-- The spellings of the beam width of building. -/
def efConstructionKeys : List String := [ParamName.efConstruction, "ef_construction"]

def linksKeys : List String := [ParamName.m, "m"]

def threadCountKeys : List String := [ParamName.threadCount]

/-- The spellings of the beam width of searching. -/
def efSearchKeys : List String := [ParamName.efSearch, "ef_search"]

/-- The members of an object; `what` names it in the error. -/
def membersOf (what : String) : Value → Except Error (List (String × Value))
  | .object members => .ok members
  | _ => .error (.badArgument (.notAnObject what))

def spaceOf (members : List (String × Value)) : Except Error Space :=
  match members.lookup spaceTypeKey with
  | none => .error (.missingParameter spaceTypeKey)
  | some (.string name) => Space.ofName name
  | some v => .error (.badArgument (.notAString spaceTypeKey v.compact))

/-- The value under the first of several spellings that is present. It has to be a positive
integer. -/
def firstPositive (members : List (String × Value)) : List String → Except Error (Option Nat)
  | [] => .ok none
  | key :: rest =>
    match members.lookup key with
    | none => firstPositive members rest
    | some (.int (.ofNat (n + 1))) => .ok (some (n + 1))
    | some v => .error (.badArgument (.notPositiveValue key v.compact))

/-- What a build map asks for. -/
structure BuildRequest where
  space : Space
  params : BuildParams
  deriving DecidableEq, Repr

/-- Reads the parameters of the graph, which may be left out. -/
def graphParams (members : List (String × Value)) : Except Error (Option Nat × Option Nat) :=
  match members.lookup parametersKey with
  | none => .ok (none, none)
  | some nested => do
    let inner ← membersOf parametersKey nested
    let efConstruction ← firstPositive inner efConstructionKeys
    let m ← firstPositive inner linksKeys
    return (efConstruction, m)

def BuildRequest.ofJson (map : Value) : Except Error BuildRequest := do
  let members ← membersOf "build parameters" map
  let space ← spaceOf members
  let (efConstruction, m) ← graphParams members
  let threadCount ← firstPositive members threadCountKeys
  return ⟨space, ⟨efConstruction, m, threadCount⟩⟩

/-- What a load map asks for. -/
structure LoadRequest where
  space : Space
  params : QueryParams
  deriving DecidableEq, Repr

def LoadRequest.ofJson (map : Value) : Except Error LoadRequest := do
  let members ← membersOf "load parameters" map
  let space ← spaceOf members
  let efSearch ← firstPositive members efSearchKeys
  return ⟨space, ⟨efSearch⟩⟩

end Vicinity.Host
