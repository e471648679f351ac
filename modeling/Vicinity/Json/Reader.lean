import Vicinity.Json.Number
import Vicinity.Json.Value

/-!
Reading JSON. A text is first read for its form alone: numbers stay as written, and a string may
turn out to name no sequence of characters. What is asked of numbers, strings and nesting is
checked only where a part of the text is used.
-/

namespace Vicinity.Json

open Vicinity.Number

/-- The form of a JSON text. A string is `none` if its escapes form half a surrogate pair. -/
inductive Term where
  | null
  | bool (b : Bool)
  | number (n : NumberText)
  | string (s : Option String)
  | array (items : List Term)
  | object (members : List (Option String × Term))

/-- Drops the four blanks that JSON allows between tokens. -/
def skipBlank : List Char → List Char
  | [] => []
  | c :: cs => if c = ' ' ∨ c = '\n' ∨ c = '\t' ∨ c = '\r' then skipBlank cs else c :: cs

/-- A piece of a string: a character as it stands, or a 16-bit unit given by an escape. -/
inductive Piece where
  | char (c : Char)
  | unit (n : Nat)

/-- The value of a hexadecimal digit of either case. -/
def hexValue? (c : Char) : Option Nat :=
  if '0' ≤ c ∧ c ≤ '9' then some (c.toNat - '0'.toNat)
  else if 'a' ≤ c ∧ c ≤ 'f' then some (c.toNat - 'a'.toNat + 10)
  else if 'A' ≤ c ∧ c ≤ 'F' then some (c.toNat - 'A'.toNat + 10)
  else none

/-- The unit that four hexadecimal digits give. -/
def unit? (a b c d : Char) : Option Nat := do
  let a ← hexValue? a
  let b ← hexValue? b
  let c ← hexValue? c
  let d ← hexValue? d
  return ((a * 16 + b) * 16 + c) * 16 + d

/-- The character that a letter after a backslash stands for. -/
def shortEscape? (c : Char) : Option Char :=
  if c = '"' ∨ c = '\\' ∨ c = '/' then some c
  else if c = 'b' then some '\x08'
  else if c = 'f' then some '\x0c'
  else if c = 'n' then some '\n'
  else if c = 'r' then some '\r'
  else if c = 't' then some '\t'
  else none

/-- The pieces of a string up to its closing quote, after those already read, and what follows. -/
def readPieces (read : List Piece) : List Char → Option (List Piece × List Char)
  | [] => none
  | c :: rest =>
    if c = '"' then some (read.reverse, rest)
    else if c = '\\' then
      match rest with
      | 'u' :: h1 :: h2 :: h3 :: h4 :: rest =>
        match unit? h1 h2 h3 h4 with
        | some n => readPieces (.unit n :: read) rest
        | none => none
      | e :: rest =>
        match shortEscape? e with
        | some c => readPieces (.char c :: read) rest
        | none => none
      | [] => none
    else if c < ' ' then none
    else readPieces (.char c :: read) rest

def isHighSurrogate (n : Nat) : Bool := 0xD800 ≤ n && n < 0xDC00

def isLowSurrogate (n : Nat) : Bool := 0xDC00 ≤ n && n < 0xE000

/-- The characters that pieces spell, after those already joined; `none` if half a surrogate pair
stands alone. -/
def joinPieces (joined : List Char) : List Piece → Option (List Char)
  | [] => some joined.reverse
  | .char c :: rest => joinPieces (c :: joined) rest
  | .unit n :: rest =>
    if isHighSurrogate n then
      match rest with
      | .unit m :: rest =>
        if isLowSurrogate m then
          joinPieces (Char.ofNat (0x10000 + (n - 0xD800) * 0x400 + (m - 0xDC00)) :: joined) rest
        else none
      | _ => none
    else if isLowSurrogate n then none
    else joinPieces (Char.ofNat n :: joined) rest

/-- A string after its opening quote, and what follows it. -/
def readString (cs : List Char) : Option (Option String × List Char) :=
  (readPieces [] cs).map fun (pieces, rest) => ((joinPieces [] pieces).map String.ofList, rest)

/-- The digits after a point, if one stands there; at least one is wanted. -/
def readFraction : List Char → Option (Option (List Nat) × List Char)
  | '.' :: cs =>
    match spanDigits cs with
    | ([], _) => none
    | (ds, rest) => some (some ds, rest)
  | cs => some (none, cs)

/-- The exponent, if one stands there; at least one digit is wanted. -/
def readPower : List Char → Option (Option (Bool × List Nat) × List Char)
  | [] => some (none, [])
  | c :: cs =>
    if c = 'e' ∨ c = 'E' then
      let (below, cs) := match cs with
        | '+' :: cs => (false, cs)
        | '-' :: cs => (true, cs)
        | cs => (false, cs)
      match spanDigits cs with
      | ([], _) => none
      | (ds, rest) => some (some (below, ds), rest)
    else some (none, c :: cs)

/-- A number without its sign, and what follows it. No digit may follow a leading zero. -/
def readMagnitude (negative : Bool) (cs : List Char) : Option (NumberText × List Char) :=
  match spanDigits cs with
  | ([], _) => none
  | (0 :: _ :: _, _) => none
  | (whole, cs) => do
    let (fraction, cs) ← readFraction cs
    let (power, cs) ← readPower cs
    return (⟨negative, whole, fraction, power⟩, cs)

/-- A number, and what follows it. -/
def readNumber : List Char → Option (NumberText × List Char)
  | '-' :: cs => readMagnitude true cs
  | cs => readMagnitude false cs

/-- What follows a word that has to stand at the front. -/
def afterWord (word cs : List Char) : Option (List Char) :=
  if word.isPrefixOf cs then some (cs.drop word.length) else none

mutual

/-- One value, and what follows it. -/
def readTerm : Nat → List Char → Option (Term × List Char)
  | 0, _ => none
  | fuel + 1, cs =>
    match skipBlank cs with
    | [] => none
    | c :: rest =>
      if c = '"' then (readString rest).map fun (s, rest) => (.string s, rest)
      else if c = '[' then
        match skipBlank rest with
        | ']' :: rest => some (.array [], rest)
        | rest => (readItems fuel rest).map fun (items, rest) => (.array items, rest)
      else if c = '\x7b' then
        match skipBlank rest with
        | '\x7d' :: rest => some (.object [], rest)
        | rest => (readMembers fuel rest).map fun (members, rest) => (.object members, rest)
      else if c = 'n' then (afterWord ['u', 'l', 'l'] rest).map fun rest => (.null, rest)
      else if c = 't' then (afterWord ['r', 'u', 'e'] rest).map fun rest => (.bool true, rest)
      else if c = 'f' then (afterWord ['a', 'l', 's', 'e'] rest).map fun rest => (.bool false, rest)
      else (readNumber (c :: rest)).map fun (n, rest) => (.number n, rest)

/-- The items of an array that has at least one, up to its closing bracket. -/
def readItems : Nat → List Char → Option (List Term × List Char)
  | 0, _ => none
  | fuel + 1, cs =>
    match readTerm fuel cs with
    | none => none
    | some (item, rest) =>
      match skipBlank rest with
      | ',' :: rest => (readItems fuel rest).map fun (items, rest) => (item :: items, rest)
      | ']' :: rest => some ([item], rest)
      | _ => none

/-- The members of an object that has at least one, up to its closing brace. -/
def readMembers : Nat → List Char → Option (List (Option String × Term) × List Char)
  | 0, _ => none
  | fuel + 1, cs =>
    match skipBlank cs with
    | '"' :: rest =>
      match readString rest with
      | none => none
      | some (name, rest) =>
        match skipBlank rest with
        | ':' :: rest =>
          match readTerm fuel rest with
          | none => none
          | some (item, rest) =>
            match skipBlank rest with
            | ',' :: rest =>
              (readMembers fuel rest).map fun (members, rest) => ((name, item) :: members, rest)
            | '\x7d' :: rest => some ([(name, item)], rest)
            | _ => none
        | _ => none
    | _ => none

end

/-- The form of a whole text: one value, with nothing but blanks around it. -/
def Term.ofText? (text : String) : Option Term :=
  let cs := text.toList
  match readTerm (2 * cs.length + 2) cs with
  | some (t, rest) => if (skipBlank rest).isEmpty then some t else none
  | none => none

/-- How deep arrays and objects may stand in one another. -/
def maxDepth : Nat := 127

/-- The value of a text whose parts are all in use, at most `depth` levels deep. Members are
sorted by name. -/
def Term.value? : Nat → Term → Option Value
  | _, .null => some .null
  | _, .bool b => some (.bool b)
  | _, .number n => n.value?.map fun
    | .int i => .int i
    | .float x => .float x
  | _, .string s => s.map .string
  | 0, .array _ => none
  | depth + 1, .array items => (items.mapM (Term.value? depth)).map .array
  | 0, .object _ => none
  | depth + 1, .object members => do
    let members ← members.mapM fun (name, item) => do
      let name ← name
      let item ← Term.value? depth item
      return (name, item)
    return .object (members.foldl (fun sorted (name, item) => insertMember name item sorted) [])

def Value.ofText? (text : String) : Option Value :=
  Term.ofText? text >>= Term.value? maxDepth

end Vicinity.Json
