import Vicinity.Json.Reader

/-!
Reading records out of a JSON text. A record may stand as an object, whose members come in any
order and may include others that are skipped, or as an array of its fields in their order. A
field that is given twice spoils the record.
-/

namespace Vicinity.Json

open Vicinity.Number

/-- The fields of a record in their order, and whether they were given by position. -/
structure Fields where
  byPosition : Bool
  given : List (Option Term)

/-- The only item of a list; `none` inside if the list is empty. -/
def atMostOne (items : List Term) : Option (Option Term) :=
  match items with
  | [] => some none
  | [t] => some (some t)
  | _ => none

/-- The field of a given name among the members of an object. -/
def pickField (members : List (Option String × Term)) (name : String) : Option (Option Term) :=
  atMostOne ((members.filter fun m => m.1 == some name).map (·.2))

def Term.fields? (names : List String) : Term → Option Fields
  | .object members =>
    if members.all fun m => m.1.isSome then
      (names.mapM (pickField members)).map (⟨false, ·⟩)
    else none
  | .array items =>
    if items.length ≤ names.length then
      some ⟨true, items.map some ++ List.replicate (names.length - items.length) none⟩
    else none
  | _ => none

namespace Fields

def term? (fs : Fields) (position : Nat) : Option Term := (fs.given[position]?).join

def required (fs : Fields) (position : Nat) (read : Term → Option α) : Option α :=
  fs.term? position >>= read

/-- A field that may be left out in either form. -/
def withDefault (fs : Fields) (position : Nat) (standard : α) (read : Term → Option α) :
    Option α :=
  match fs.term? position with
  | none => some standard
  | some t => read t

end Fields

namespace Term

/-- `null` for no value. -/
def optional? (read : Term → Option α) : Term → Option (Option α)
  | null => some none
  | t => (read t).map some

def natural? (limit : Nat) : Term → Option Nat
  | number n =>
    match n.value? with
    | some (.int (.ofNat k)) => if k ≤ limit then some k else none
    | _ => none
  | _ => none

def word? : Term → Option Nat := natural? maxWord

def halfWord? : Term → Option Nat := natural? (Nat.pow 2 32 - 1)

def integer? : Term → Option Int
  | number n =>
    match n.value? with
    | some (.int i) => if fitsSigned 64 i then some i else none
    | _ => none
  | _ => none

def single? : Term → Option Single
  | number n => n.value?.map fun
    | .int i => singleOfInt i
    | .float x => narrow x
  | _ => none

def text? : Term → Option String
  | string s => s
  | _ => none

def items? (read : Term → Option α) : Term → Option (List α)
  | array items => items.mapM read
  | _ => none

/-- The name of a choice without content: a string, or an object with that one member and
`null` in it. -/
def choice? : Term → Option String
  | string s => s
  | object [(name, null)] => name
  | _ => none

end Term

end Vicinity.Json
