import Vicinity.Json.Value
import Vicinity.Number.Decimal

/-!
Writing JSON, on one line or indented by two blanks. Numbers get the fewest digits that name them
in their own precision; a number that is not finite becomes `null`.
-/

namespace Vicinity.Json

open Vicinity.Number

/-- A single stands without an exponent from `1e-6` up to `1e13`. -/
def singleLayout : Layout := ⟨-6, 13, ['.', '0']⟩

/-- A double stands without an exponent from `1e-5` up to `1e16`. -/
def doubleLayout : Layout := ⟨-5, 16, ['.', '0']⟩

/-- The text of a floating-point number; `null` if it is not finite. -/
def floatText (f : Format) (layout : Layout) : Binary → List Char
  | .finite negative mantissa exponent =>
    (if negative then ['-'] else []) ++ (f.shortest mantissa exponent).render layout
  | _ => ['n', 'u', 'l', 'l']

/-- One hexadecimal digit, lower case. -/
def hexDigit (n : Nat) : Char :=
  if n < 10 then Char.ofNat ('0'.toNat + n) else Char.ofNat ('a'.toNat + (n - 10))

/-- How one character is written inside a string. -/
def escapeChar (c : Char) : List Char :=
  if c = '"' then ['\\', '"']
  else if c = '\\' then ['\\', '\\']
  else if c = '\n' then ['\\', 'n']
  else if c = '\r' then ['\\', 'r']
  else if c = '\t' then ['\\', 't']
  else if c = '\x08' then ['\\', 'b']
  else if c = '\x0c' then ['\\', 'f']
  else if c.toNat < 0x20 then
    ['\\', 'u', '0', '0', hexDigit (c.toNat / 16), hexDigit (c.toNat % 16)]
  else [c]

def stringText (s : String) : List Char :=
  '"' :: s.toList.flatMap escapeChar ++ ['"']

def joinComma (texts : List (List Char)) : List Char :=
  [','].intercalate texts

/-- The blanks that a layout puts between tokens: before an entry or a closing bracket at a depth,
and after a colon. -/
structure Spacing where
  line : Nat → List Char
  colon : List Char

namespace Spacing

def compact : Spacing := ⟨fun _ => [], []⟩

/-- A new line that starts with two blanks for each level. -/
def newLine (depth : Nat) : List Char :=
  '\n' :: List.replicate (2 * depth) ' '

def pretty : Spacing := ⟨newLine, [' ']⟩

end Spacing

/-- Entries between two brackets that stand at a depth; nothing between them if there are none. -/
def block (spacing : Spacing) (opening closing : Char) (depth : Nat)
    (entries : List (List Char)) : List Char :=
  if entries.isEmpty then [opening, closing]
  else
    opening :: joinComma (entries.map (spacing.line (depth + 1) ++ ·)) ++
      spacing.line depth ++ [closing]

mutual

def Value.render (spacing : Spacing) (depth : Nat) : Value → List Char
  | .null => ['n', 'u', 'l', 'l']
  | .bool true => ['t', 'r', 'u', 'e']
  | .bool false => ['f', 'a', 'l', 's', 'e']
  | .int i => (integerText i).toList
  | .float x => floatText double doubleLayout (ofDouble x)
  | .single x => floatText Number.single singleLayout (ofSingle x)
  | .string s => stringText s
  | .array items => block spacing '[' ']' depth (renderItems spacing (depth + 1) items)
  | .object members =>
    block spacing '\x7b' '\x7d' depth (renderMembers spacing (depth + 1) members)

def renderItems (spacing : Spacing) (depth : Nat) : List Value → List (List Char)
  | [] => []
  | v :: rest => v.render spacing depth :: renderItems spacing depth rest

def renderMembers (spacing : Spacing) (depth : Nat) : List (String × Value) → List (List Char)
  | [] => []
  | (name, v) :: rest =>
    (stringText name ++ ':' :: spacing.colon ++ v.render spacing depth) ::
      renderMembers spacing depth rest

end

def Value.compact (v : Value) : String := String.ofList (v.render .compact 0)

def Value.pretty (v : Value) : String := String.ofList (v.render .pretty 0)

end Vicinity.Json
