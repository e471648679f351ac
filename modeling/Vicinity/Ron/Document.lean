import Vicinity.Config.Value
import Vicinity.Json.Reader

/-!
RON documents read as configuration values: structures with named fields and maps are tables, tuples
and sequences are lists, and a name that stands alone is no value.
-/

namespace Vicinity.Ron

open Config (Value)
open Json (hexValue?)

def isBlank (c : Char) : Bool := c = ' ' || c = '\n' || c = '\t' || c = '\r'

def isNameStart (c : Char) : Bool := c.isAlpha || c = '_'

def isNameChar (c : Char) : Bool := c.isAlphanum || c = '_'

/-- Whether a character may stand in a name that is marked as one. -/
def isMarkedNameChar (c : Char) : Bool := isNameChar c || c = '.' || c = '+' || c = '-'

/-- What follows a comment that has been opened `depth` times over. -/
def afterComment : Nat → List Char → Option (List Char)
  | _, [] => none
  | depth, '/' :: '*' :: rest => afterComment (depth + 1) rest
  | depth, '*' :: '/' :: rest => if depth ≤ 1 then some rest else afterComment (depth - 1) rest
  | depth, _ :: rest => afterComment depth rest

/-- Drops blanks and comments, at most `fuel` of them; `none` if a comment has no end or a slash
starts none. -/
def skipBlank : Nat → List Char → Option (List Char)
  | 0, cs => some cs
  | fuel + 1, cs =>
    match cs.dropWhile isBlank with
    | '/' :: '/' :: rest => skipBlank fuel (rest.dropWhile (· ≠ '\n'))
    | '/' :: '*' :: rest => (afterComment 1 rest).bind (skipBlank fuel)
    | '/' :: _ => none
    | cs => some cs

/-- What stands next after blanks and comments. -/
def next (cs : List Char) : Option (List Char) := skipBlank (cs.length + 1) cs

/-- What follows a word that has to stand at the front and not go on. -/
def afterWord (word : String) (cs : List Char) : Option (List Char) :=
  if word.toList.isPrefixOf cs then
    match cs.drop word.length with
    | c :: rest => if isNameChar c then none else some (c :: rest)
    | [] => some []
  else none

/-- A name, and what follows it. One that starts with `r#` may hold points and signs. -/
def readName : List Char → Option (String × List Char)
  | 'r' :: '"' :: _ => none
  | 'r' :: '#' :: rest =>
    let name := rest.takeWhile isMarkedNameChar
    if name.isEmpty then none else some (String.ofList name, rest.drop name.length)
  | c :: rest =>
    let name := (c :: rest).takeWhile isNameChar
    if isNameStart c ∧ ((c :: rest).takeWhile isMarkedNameChar).length = name.length then
      some (String.ofList name, (c :: rest).drop name.length)
    else none
  | [] => none

/-- Between one and six hexadecimal digits and a closing brace give a character. -/
def readNumbered (cs : List Char) : Option (Char × List Char) :=
  let digits := (cs.take 6).takeWhile (· ≠ '\x7d')
  match cs.drop digits.length, digits.mapM hexValue? with
  | '\x7d' :: rest, some (d :: ds) =>
    let n := (d :: ds).foldl (fun n d => 16 * n + d) 0
    if n.isValidChar then some (Char.ofNat n, rest) else none
  | _, _ => none

/-- The character that an escape stands for, after its backslash, and what follows it. -/
def readEscape : List Char → Option (Char × List Char)
  | 'x' :: a :: b :: rest =>
    match hexValue? a, hexValue? b with
    | some a, some b => some (Char.ofNat (16 * a + b), rest)
    | _, _ => none
  | 'u' :: '\x7b' :: rest => readNumbered rest
  | c :: rest =>
    if c = '\'' ∨ c = '"' ∨ c = '\\' then some (c, rest)
    else if c = 'n' then some ('\n', rest)
    else if c = 'r' then some ('\r', rest)
    else if c = 't' then some ('\t', rest)
    else if c = '0' then some ('\x00', rest)
    else none
  | [] => none

/-- A string up to its closing quote, after what was read of it, and what follows. -/
def readString : Nat → List Char → List Char → Option (String × List Char)
  | 0, _, _ => none
  | _, _, [] => none
  | fuel + 1, read, c :: rest =>
    if c = '"' then some (String.ofList read.reverse, rest)
    else if c = '\\' then (readEscape rest).bind fun (x, rest) => readString fuel (x :: read) rest
    else readString fuel (c :: read) rest

/-- A string without escapes up to a closing mark, after what was read of it, and what follows. -/
def readPlain (mark read : List Char) : List Char → Option (String × List Char)
  | [] => none
  | c :: rest =>
    if mark.isPrefixOf (c :: rest) then
      some (String.ofList read.reverse, (c :: rest).drop mark.length)
    else readPlain mark (c :: read) rest

/-- A text in quotes, and what follows it. -/
def readText : List Char → Option (String × List Char)
  | '"' :: rest => readString (rest.length + 1) [] rest
  | 'r' :: rest =>
    let hashes := rest.takeWhile (· = '#')
    match rest.drop hashes.length with
    | '"' :: rest => readPlain ('"' :: hashes) [] rest
    | _ => none
  | '\'' :: '\\' :: rest =>
    match readEscape rest with
    | some (c, '\'' :: rest) => some (c.toString, rest)
    | _ => none
  | '\'' :: c :: '\'' :: rest => if c = '\'' then none else some (c.toString, rest)
  | _ => none

/-- Whether a character may stand in an integer. -/
def isIntegerChar (c : Char) : Bool := (hexValue? c).isSome || c = '_'

/-- Whether a character may stand in a fraction. -/
def isFractionChar (c : Char) : Bool :=
  c.isDigit || c = 'e' || c = 'E' || c = '.' || c = '+' || c = '-' || c = '_'

/-- A fraction, and what follows it. -/
def readFraction (cs : List Char) : Option (Value × List Char) :=
  let digits := cs.takeWhile isFractionChar
  if digits.contains '_' then none
  else (Number.double? (String.ofList digits)).map fun x => (.float x, cs.drop digits.length)

/-- The base that the start of an integer tells, and the rest of the integer. -/
def baseOf : List Char → Nat × List Char
  | '0' :: 'x' :: rest => (16, rest)
  | '0' :: 'b' :: rest => (2, rest)
  | '0' :: 'o' :: rest => (8, rest)
  | cs => (10, cs)

/-- An integer after its sign, and what follows it. Underscores between the digits do not count. -/
def readNatural (cs : List Char) : Option (Nat × List Char) :=
  let (base, cs) := baseOf cs
  let digits := cs.takeWhile isIntegerChar
  match digits.head? with
  | none => none
  | some first =>
    if first = '_' then none
    else
      match (digits.filter (· ≠ '_')).mapM hexValue? with
      | none => none
      | some ds =>
        if ds.all (· < base) then
          some (ds.foldl (fun n d => base * n + d) 0, cs.drop digits.length)
        else none

/-- A number, and what follows it. An integer that fits no word is read as a fraction. -/
def readNumber (cs : List Char) : Option (Value × List Char) :=
  let sign := (cs.take 1).filter fun c => c = '+' || c = '-'
  let rest := cs.drop sign.length
  if (rest.takeWhile isIntegerChar).length < (rest.takeWhile isFractionChar).length then
    readFraction cs
  else
    match readNatural rest with
    | none => readFraction cs
    | some (n, after) =>
      let i : Int := if sign = ['-'] then -(n : Int) else n
      if Number.fitsSigned 64 i ∨ (sign.isEmpty ∧ n ≤ Number.maxWord) then
        some (Value.ofInt i, after)
      else readFraction cs

/-- A word with a value of its own, and what follows it. -/
def readWord (cs : List Char) : Option (Value × List Char) :=
  let words : List (String × Value) :=
    [("true", .bool true), ("false", .bool false), ("None", .absent),
      ("inf", .float (Number.Binary.infinite false).toDouble),
      ("-inf", .float (Number.Binary.infinite true).toDouble),
      ("NaN", .float Number.Binary.nan.toDouble)]
  words.findSome? fun (word, v) => (afterWord word cs).map fun rest => (v, rest)

/-- Whether the inside of parentheses has named fields. -/
def hasFields (cs : List Char) : Option Bool :=
  match readName cs with
  | none => some false
  | some (_, rest) => (next rest).bind fun rest => rest.head?.map fun c => c == ':'

/-- What follows a comma, if one stands next, and whether one does. -/
def afterComma (cs : List Char) : Option (Bool × List Char) :=
  (next cs).bind fun
    | ',' :: rest => (next rest).map fun rest => (true, rest)
    | cs => some (false, cs)

/-- Puts an entry into a table in place of one with its key. -/
def putEntry (key : String) (v : Value) (entries : List (String × Value)) : List (String × Value) :=
  entries.filter (fun e => e.1 ≠ key) ++ [(key, v)]

mutual

/-- One value, and what follows it, at most `depth` levels deep. -/
def readValue : Nat → Nat → List Char → Option (Value × List Char)
  | 0, _, _ => none
  | fuel + 1, depth, cs =>
    match readWord cs with
    | some r => some r
    | none =>
      match afterWord "Some" cs with
      | some rest => readSome fuel depth rest
      | none =>
        match cs with
        | '(' :: ')' :: rest => some (.absent, rest)
        | _ =>
          match readName cs with
          | some (_, rest) => (next rest).bind fun rest => readStructure fuel depth rest
          | none =>
            match cs with
            | '(' :: _ => readStructure fuel depth cs
            | '[' :: rest =>
              (readItems fuel depth ']' true rest).map fun (items, rest) => (.list items, rest)
            | '\x7b' :: rest =>
              (readEntries fuel depth '\x7d' [] true rest).map fun (entries, rest) =>
                (.table entries, rest)
            | c :: _ =>
              if c.isDigit ∨ c = '+' ∨ c = '-' then readNumber cs
              else if c = '.' then readFraction cs
              else (readText cs).map fun (s, rest) => (.text s, rest)
            | [] => none

/-- A value wrapped as one that is present, and what follows it. -/
def readSome : Nat → Nat → List Char → Option (Value × List Char)
  | 0, _, _ => none
  | _, 0, _ => none
  | fuel + 1, depth + 1, cs =>
    match next cs with
    | some ('(' :: rest) =>
      match (next rest).bind (readValue fuel depth) with
      | none => none
      | some (v, rest) =>
        match afterComma rest with
        | some (_, ')' :: rest) => some (v, rest)
        | _ => none
    | _ => none

/-- What stands in parentheses after a name, or the absence of a value where there are none. -/
def readStructure : Nat → Nat → List Char → Option (Value × List Char)
  | 0, _, _ => none
  | fuel + 1, depth, cs =>
    match cs with
    | '(' :: rest =>
      match (next rest).bind hasFields with
      | none => none
      | some true =>
        (readEntries fuel depth ')' [] true rest).map fun (entries, rest) => (.table entries, rest)
      | some false =>
        (readItems fuel depth ')' true rest).map fun (items, rest) => (.list items, rest)
    | cs => some (.absent, cs)

/-- Items up to a closing mark. `ready` tells whether another item may follow. -/
def readItems : Nat → Nat → Char → Bool → List Char → Option (List Value × List Char)
  | 0, _, _, _, _ => none
  | fuel + 1, depth, close, ready, cs =>
    match next cs with
    | none => none
    | some [] => none
    | some (c :: rest) =>
      if c = close then some ([], rest)
      else
        match ready, depth with
        | true, depth + 1 =>
          match readValue fuel depth (c :: rest) with
          | none => none
          | some (item, rest) =>
            match afterComma rest with
            | none => none
            | some (comma, rest) =>
              (readItems fuel (depth + 1) close comma rest).map fun (items, rest) =>
                (item :: items, rest)
        | _, _ => none

/-- Entries up to a closing mark, after those already read. The keys of a map are texts, those of a
structure are names. -/
def readEntries :
    Nat → Nat → Char → List (String × Value) → Bool → List Char →
      Option (List (String × Value) × List Char)
  | 0, _, _, _, _, _ => none
  | fuel + 1, depth, close, entries, ready, cs =>
    match next cs with
    | none => none
    | some [] => none
    | some (c :: rest) =>
      if c = close then some (entries, rest)
      else
        match ready, depth with
        | true, depth + 1 =>
          let key := if close = ')' then readName (c :: rest) else readText (c :: rest)
          match key with
          | none => none
          | some (key, rest) =>
            match next rest with
            | some (':' :: rest) =>
              match (next rest).bind (readValue fuel depth) with
              | none => none
              | some (v, rest) =>
                match afterComma rest with
                | none => none
                | some (comma, rest) =>
                  readEntries fuel (depth + 1) close (putEntry key v entries) comma rest
            | _ => none
        | _, _ => none

end

def maxDepth : Nat := 128

/-- What an attribute may turn on. None of it changes how values are read here. -/
def extensionNames : List String :=
  ["unwrap_newtypes", "implicit_some", "unwrap_variant_newtypes"]

/-- What follows some marks, with blanks after each of them. -/
def afterMarks : List String → List Char → Option (List Char)
  | [], cs => some cs
  | mark :: marks, cs =>
    if mark.toList.isPrefixOf cs then (next (cs.drop mark.length)).bind (afterMarks marks) else none

def afterExtensions : Nat → List Char → Option (List Char)
  | 0, _ => none
  | fuel + 1, cs =>
    match readName cs with
    | none => none
    | some (name, rest) =>
      if extensionNames.contains name then
        match afterComma rest with
        | none => none
        | some (comma, rest) =>
          let more := (rest.head?.map isNameChar).getD false
          if comma ∧ more then afterExtensions fuel rest
          else if more then none
          else some rest
      else none

/-- What follows the attributes at the start of a document, at most `fuel` of them. -/
def afterAttributes : Nat → List Char → Option (List Char)
  | fuel + 1, '#' :: rest =>
    ((((next rest).bind (afterMarks ["!", "[", "enable", "("])).bind fun rest =>
      afterExtensions (rest.length + 1) rest).bind (afterMarks [")", "]"])).bind
        (afterAttributes fuel)
  | _, cs => some cs

def valueOfText? (text : String) : Option Value :=
  let fuel := 4 * text.length + 4
  match ((next text.toList).bind (afterAttributes fuel)).bind (readValue fuel maxDepth) with
  | some (v, rest) => if next rest = some [] then some v else none
  | none => none

end Vicinity.Ron
