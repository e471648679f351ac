import Vicinity.Number.Single

/-!
JSON values. A number keeps the precision it is written with, and an object keeps its members in
order.
-/

namespace Vicinity.Json

/-- A JSON value as the program handles it. -/
inductive Value where
  | null
  | bool (b : Bool)
  | int (i : Int)
  | float (x : Float)
  | single (x : Single)
  | string (s : String)
  | array (items : List Value)
  | object (members : List (String × Value))

def Value.nat (n : Nat) : Value := .int n

/-- The value, or `null` if there is none. -/
def Value.ofOption (write : α → Value) : Option α → Value
  | none => .null
  | some a => write a

/-- The member of an object with the given name. -/
def Value.get? (v : Value) (name : String) : Option Value :=
  match v with
  | .object members => members.lookup name
  | _ => none

/-- Puts a member in its place among members sorted by name. A later member of the same name
replaces the earlier one. -/
def insertMember (name : String) (v : Value) : List (String × Value) → List (String × Value)
  | [] => [(name, v)]
  | (k, w) :: rest =>
    if name < k then (name, v) :: (k, w) :: rest
    else if name = k then (name, v) :: rest
    else (k, w) :: insertMember name v rest

end Vicinity.Json
