import Vicinity.Json.Reader
import Vicinity.Number.Literal
import Vicinity.Text.Blank
import Vicinity.Text.Letters

/-!
JSON5: another notation for JSON values, with comments, names without quotes, strings in single
quotes and over several lines, commas after the last item, and more ways to write numbers.
-/

namespace Vicinity.Json5

open Json (Piece Value hexValue? unit? joinPieces insertMember)

def endsLine (c : Char) : Bool := c = '\n' || c = '\r' || c = '\u2028' || c = '\u2029'

def isBlank (c : Char) : Bool :=
  c = '\ufeff' || (Text.isBlank c && c ≠ '\u0085')

/-- What follows the end of a comment between `/*` and `*/`. -/
def afterComment : List Char → Option (List Char)
  | [] => none
  | '*' :: '/' :: rest => some rest
  | _ :: rest => afterComment rest

/-- Drops blanks and comments, at most `fuel` of them. -/
def skipBlank : Nat → List Char → List Char
  | 0, cs => cs
  | fuel + 1, cs =>
    match cs.dropWhile isBlank with
    | '/' :: '/' :: rest => skipBlank fuel (rest.dropWhile fun c => !endsLine c)
    | '/' :: '*' :: rest =>
      match afterComment rest with
      | some rest => skipBlank fuel rest
      | none => '/' :: '*' :: rest
    | cs => cs

/-- What stands next after blanks and comments. -/
def next (cs : List Char) : List Char := skipBlank (cs.length + 1) cs

/-- The character that a letter after a backslash stands for. Digits other than zero stand for
nothing. -/
def escaped? (c : Char) : Option Char :=
  if c = 'b' then some '\x08'
  else if c = 'f' then some '\x0c'
  else if c = 'n' then some '\n'
  else if c = 'r' then some '\r'
  else if c = 't' then some '\t'
  else if c = 'v' then some '\x0b'
  else if c = '0' then some '\x00'
  else if c.isDigit then none
  else some c

/-- The pieces of a string up to its closing quote, after those already read, and what follows. -/
def readPieces (quote : Char) (read : List Piece) : List Char → Option (List Piece × List Char)
  | [] => none
  | '\\' :: 'u' :: h1 :: h2 :: h3 :: h4 :: rest =>
    (unit? h1 h2 h3 h4).bind fun n => readPieces quote (.unit n :: read) rest
  | '\\' :: 'x' :: h1 :: h2 :: rest =>
    (unit? '0' '0' h1 h2).bind fun n => readPieces quote (.char (Char.ofNat n) :: read) rest
  | '\\' :: '\r' :: '\n' :: rest => readPieces quote read rest
  | '\\' :: c :: rest =>
    if endsLine c then readPieces quote read rest
    else if c = 'u' ∨ c = 'x' then none
    else (escaped? c).bind fun e => readPieces quote (.char e :: read) rest
  | c :: rest =>
    if c = quote then some (read.reverse, rest)
    else if endsLine c ∨ c = '\\' then none
    else readPieces quote (.char c :: read) rest

/-- The pieces of a name without quotes, after those already read, and what follows. -/
def readName (read : List Piece) : List Char → Option (List Piece × List Char)
  | '\\' :: rest =>
    match rest with
    | 'u' :: h1 :: h2 :: h3 :: h4 :: rest =>
      (unit? h1 h2 h3 h4).bind fun n => readName (.unit n :: read) rest
    | _ => none
  | c :: rest =>
    let starts := Text.isLetter c || c = '$' || c = '_'
    let inside := !read.isEmpty && (Text.isInner c || c = '\u200c' || c = '\u200d')
    if starts ∨ inside then readName (.char c :: read) rest else some (read.reverse, c :: rest)
  | [] => some (read.reverse, [])

/-- The text that pieces spell, if they spell one. -/
def spelled (r : Option (List Piece × List Char)) : Option (String × List Char) :=
  r.bind fun (pieces, rest) => (joinPieces [] pieces).map fun s => (String.ofList s, rest)

/-- A string, and what follows it. -/
def readString : List Char → Option (String × List Char)
  | '"' :: rest => spelled (readPieces '"' [] rest)
  | '\'' :: rest => spelled (readPieces '\'' [] rest)
  | _ => none

/-- The key of a member, and what follows it. -/
def readKey : List Char → Option (String × List Char)
  | '"' :: rest => readString ('"' :: rest)
  | '\'' :: rest => readString ('\'' :: rest)
  | cs =>
    match readName [] cs with
    | some ([], _) => none
    | r => spelled r

/-- What follows a word that has to stand at the front. -/
def afterWord (word : String) (cs : List Char) : Option (List Char) :=
  if word.toList.isPrefixOf cs then some (cs.drop word.length) else none

/-- A run of digits, and what follows it. -/
def spanDigits (cs : List Char) : List Char × List Char := cs.span Char.isDigit

/-- The exponent that stands here, if one does, and what follows it. -/
def spanPower (cs : List Char) : List Char × List Char :=
  match cs with
  | [] => ([], [])
  | e :: rest =>
    if e = 'e' ∨ e = 'E' then
      let sign := (rest.take 1).filter fun c => c = '+' || c = '-'
      match spanDigits (rest.drop sign.length) with
      | ([], _) => ([], cs)
      | (digits, rest) => (e :: sign ++ digits, rest)
    else ([], cs)

/-- A decimal number without its sign, and what follows it. There is a digit on one side of the
point, and none follows a leading zero. -/
def spanDecimal (cs : List Char) : Option (List Char × List Char) :=
  let (whole, rest) := match cs with
    | '0' :: rest => (['0'], rest)
    | cs => spanDigits cs
  let (places, rest) := match rest with
    | '.' :: rest => let (digits, rest) := spanDigits rest; ('.' :: digits, rest)
    | rest => ([], rest)
  if whole.isEmpty ∧ places.length ≤ 1 then none
  else
    let (power, rest) := spanPower rest
    some (whole ++ places ++ power, rest)

/-- The value of a decimal number: an integer of at most 64 bits, or a finite fraction where it has
a point or an exponent. -/
def decimalValue? (sign digits : List Char) : Option Value :=
  let text := String.ofList (sign ++ digits)
  if digits.all Char.isDigit then (Number.signed? 64 text).map .int
  else (Number.double? text).bind fun x => if x.isInf then none else some (.float x)

def infinite (negative : Bool) : Value := .float (Number.Binary.infinite negative).toDouble

/-- A number, and what follows it. Hexadecimal ones have no sign and at most 32 bits. -/
def readNumber (cs : List Char) : Option (Value × List Char) :=
  let sign := (cs.take 1).filter fun c => c = '+' || c = '-'
  let rest := cs.drop sign.length
  match afterWord "Infinity" rest, afterWord "NaN" rest with
  | some rest, _ => some (infinite (sign == ['-']), rest)
  | none, some rest => some (.float Number.Binary.nan.toDouble, rest)
  | none, none =>
    match rest with
    | '0' :: x :: digit :: tail =>
      if (x = 'x' ∨ x = 'X') ∧ (hexValue? digit).isSome then
        let digits := (digit :: tail).takeWhile fun c => (hexValue? c).isSome
        let n := (digits.filterMap hexValue?).foldl (fun n d => 16 * n + d) 0
        if sign.isEmpty ∧ n < Nat.pow 2 32 then some (.nat n, (digit :: tail).drop digits.length)
        else none
      else (spanDecimal rest).bind fun (digits, rest) =>
        (decimalValue? sign digits).map fun v => (v, rest)
    | rest => (spanDecimal rest).bind fun (digits, rest) =>
      (decimalValue? sign digits).map fun v => (v, rest)

mutual

/-- One value, and what follows it. -/
def readValue : Nat → List Char → Option (Value × List Char)
  | 0, _ => none
  | fuel + 1, cs =>
    match next cs with
    | [] => none
    | c :: rest =>
      if c = '"' ∨ c = '\'' then (readString (c :: rest)).map fun (s, rest) => (.string s, rest)
      else if c = '[' then (readItems fuel rest).map fun (items, rest) => (.array items, rest)
      else if c = '\x7b' then
        (readMembers fuel rest).map fun (members, rest) =>
          (.object (members.foldl (fun sorted m => insertMember m.1 m.2 sorted) []), rest)
      else if c = 'n' then (afterWord "ull" rest).map fun rest => (.null, rest)
      else if c = 't' then (afterWord "rue" rest).map fun rest => (.bool true, rest)
      else if c = 'f' then (afterWord "alse" rest).map fun rest => (.bool false, rest)
      else readNumber (c :: rest)

/-- The items of an array up to its closing bracket, which may come at the start and after a
comma. -/
def readItems : Nat → List Char → Option (List Value × List Char)
  | 0, _ => none
  | fuel + 1, cs =>
    match next cs with
    | ']' :: rest => some ([], rest)
    | cs =>
      match readValue fuel cs with
      | none => none
      | some (item, rest) =>
        match next rest with
        | ',' :: rest => (readItems fuel rest).map fun (items, rest) => (item :: items, rest)
        | ']' :: rest => some ([item], rest)
        | _ => none

/-- The members of an object up to its closing brace, which may come at the start and after a
comma. -/
def readMembers : Nat → List Char → Option (List (String × Value) × List Char)
  | 0, _ => none
  | fuel + 1, cs =>
    match next cs with
    | '\x7d' :: rest => some ([], rest)
    | cs =>
      match readKey cs with
      | none => none
      | some (key, rest) =>
        match next rest with
        | ':' :: rest =>
          match readValue fuel rest with
          | none => none
          | some (item, rest) =>
            match next rest with
            | ',' :: rest =>
              (readMembers fuel rest).map fun (members, rest) =>
                ((key, item) :: members, rest)
            | '\x7d' :: rest => some ([(key, item)], rest)
            | _ => none
        | _ => none

end

def valueOfText? (text : String) : Option Value :=
  let cs := text.toList
  match readValue (2 * cs.length + 2) cs with
  | some (v, rest) => if (next rest).isEmpty then some v else none
  | none => none

end Vicinity.Json5
