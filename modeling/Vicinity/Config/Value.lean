import Vicinity.Json.Value
import Vicinity.Number.Literal
import Vicinity.Text.Blank
import Vicinity.Toml.Value

/-!
Configuration values. Sources of different kinds give values of different types for one setting,
so a value is converted to what the setting wants: a number may come as a text, a switch or a
fraction, and a text may come as a number.
-/

namespace Vicinity.Config

open Vicinity.Number

/-- A value of a configuration. The keys of a table are all different and have no capital
letters. -/
inductive Value where
  | absent
  | bool (b : Bool)
  | int (i : Int)
  | float (x : Float)
  | text (s : String)
  | list (items : List Value)
  | table (entries : List (String × Value))

mutual

/-- A value from a TOML document. Dates and times become texts. -/
def Value.ofToml : Toml.Value → Value
  | .string s => .text s
  | .int i => .int i
  | .float x => .float x
  | .bool b => .bool b
  | .moment text => .text text
  | .array items => .list (itemsOfToml items)
  | .table entries => .table (entriesOfToml entries)

def itemsOfToml : List Toml.Value → List Value
  | [] => []
  | v :: rest => Value.ofToml v :: itemsOfToml rest

def entriesOfToml : List (String × Toml.Value) → List (String × Value)
  | [] => []
  | (key, v) :: rest => (key, Value.ofToml v) :: entriesOfToml rest

end

/-- An integer of at most 64 bits with its sign; a greater one becomes a fraction. -/
def Value.ofInt (i : Int) : Value :=
  if fitsSigned 64 i then .int i
  else .float (double.nearest (decide (i < 0)) i.natAbs 1).toDouble

mutual

def Value.ofJson : Json.Value → Value
  | .null => .absent
  | .bool b => .bool b
  | .int i => .ofInt i
  | .float x => .float x
  | .single x => .float (widen x)
  | .string s => .text s
  | .array items => .list (itemsOfJson items)
  | .object members => .table (entriesOfJson members)

def itemsOfJson : List Json.Value → List Value
  | [] => []
  | v :: rest => Value.ofJson v :: itemsOfJson rest

def entriesOfJson : List (String × Json.Value) → List (String × Value)
  | [] => []
  | (key, v) :: rest => (key, Value.ofJson v) :: entriesOfJson rest

end

namespace Value

/-- A value as typed into an environment variable: a switch, an integer, a fraction, or else a
text. -/
def ofTyped (s : String) : Value :=
  let folded := Text.foldCase s
  if folded = "true" then .bool true
  else if folded = "false" then .bool false
  else
    match signed? 64 s with
    | some i => .int i
    | none =>
      match Number.double? s with
      | some x => .float x
      | none => .text s

/-- An unsigned word. A fraction is rounded, a half away from zero, and kept within the words. -/
def word? : Value → Option Nat
  | bool b => some b.toNat
  | int i => if i < 0 then none else some i.toNat
  | float x => some x.round.toUInt64.toNat
  | text s =>
    let folded := Text.foldCase s
    if folded = "true" ∨ folded = "on" ∨ folded = "yes" then some 1
    else if folded = "false" ∨ folded = "off" ∨ folded = "no" then some 0
    else Number.word? s
  | _ => none

def optionalWord? : Value → Option (Option Nat)
  | absent => some none
  | v => v.word?.map some

/-- A text. Numbers and switches are written out. -/
def text? : Value → Option String
  | bool b => some (if b then "true" else "false")
  | int i => some (integerText i)
  | float x => some (plainText x)
  | text s => some s
  | _ => none

/-- The name of a choice: a text, or the only key of a table. -/
def choice? : Value → Option String
  | text s => some s
  | table [(key, _)] => some key
  | _ => none

end Value

end Vicinity.Config
