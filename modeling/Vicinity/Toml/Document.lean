import Vicinity.Toml.Moments
import Vicinity.Toml.Numbers
import Vicinity.Toml.Strings
import Vicinity.Toml.Table

/-!
TOML documents. A document is a list of lines, each of which gives a value to a key or starts a
table; the tables are then put together in order.
-/

namespace Vicinity.Toml

/-- How deep values may stand in one another, and how many parts a key may have. -/
def maxDepth : Nat := 79

/-- Whether a character may stand in a key without quotes. -/
def isKeyChar (c : Char) : Bool := c.isAlphanum || c = '_' || c = '-'

def skipSpace (cs : List Char) : List Char := cs.dropWhile isSpace

/-- Drops a comment, if one starts here. -/
def skipComment : List Char → List Char
  | '#' :: rest => rest.dropWhile isTextChar
  | cs => cs

/-- Drops blanks, comments and line ends. `inComment` tells that a comment has started. -/
def skipLines (inComment : Bool) : List Char → List Char
  | [] => []
  | '\r' :: '\n' :: rest => skipLines false rest
  | c :: rest =>
    if c = '\n' then skipLines false rest
    else if inComment then if isTextChar c then skipLines true rest else c :: rest
    else if isSpace c then skipLines false rest
    else if c = '#' then skipLines true rest
    else c :: rest

/-- One part of a key, and what follows it. -/
def keyPart? : List Char → Option (String × List Char)
  | '"' :: rest => readBasic [] rest
  | '\'' :: rest => readLiteral rest
  | cs =>
    let name := cs.takeWhile isKeyChar
    if name.isEmpty then none else some (String.ofList name, cs.drop name.length)

/-- The parts of a key with the blanks around them, and what follows. -/
def key? : Nat → List Char → Option (List String × List Char)
  | 0, _ => none
  | fuel + 1, cs =>
    match keyPart? (skipSpace cs) with
    | none => none
    | some (part, rest) =>
      match skipSpace rest with
      | '.' :: rest => (key? fuel rest).map fun (parts, rest) => (part :: parts, rest)
      | rest => some ([part], rest)

/-- A key of at most `maxDepth` parts, split before its last part. -/
def path? (cs : List Char) : Option (List String × String × List Char) :=
  match key? maxDepth cs with
  | none => none
  | some (parts, rest) => parts.getLast?.map fun last => (parts.dropLast, last, rest)

/-- What follows a word that has to stand at the front. -/
def afterWord (word cs : List Char) : Option (List Char) :=
  if word.isPrefixOf cs then some (cs.drop word.length) else none

/-- A value that holds no others, and what follows it. -/
def scalar? (cs : List Char) : Option (Value × List Char) :=
  match cs with
  | [] => none
  | c :: _ =>
    if c = '"' ∨ c = '\'' then (readString cs).map fun (s, rest) => (.string s, rest)
    else if c = 't' then (afterWord ['t', 'r', 'u', 'e'] cs).map fun rest => (.bool true, rest)
    else if c = 'f' then
      (afterWord ['f', 'a', 'l', 's', 'e'] cs).map fun rest => (.bool false, rest)
    else
      match moment? cs with
      | some (text, rest) => some (.moment text, rest)
      | none =>
        match float? cs with
        | some (x, rest) => some (.float x, rest)
        | none => (integer? cs).map fun (i, rest) => (.int i, rest)

mutual

/-- A value at most `depth` levels deep, and what follows it. -/
def value? : Nat → Nat → List Char → Option (Value × List Char)
  | 0, _, _ => none
  | fuel + 1, depth, cs =>
    match cs, depth with
    | '[' :: _, 0 => none
    | '\x7b' :: _, 0 => none
    | '[' :: rest, depth + 1 =>
      (items? fuel depth rest).map fun (items, rest) => (.array items, rest)
    | '\x7b' :: rest, depth + 1 =>
      match skipSpace rest with
      | '\x7d' :: rest => some (.table [], rest)
      | _ => (pairs? fuel depth Section.fresh rest).map fun (s, rest) => (.table s.toEntries, rest)
    | cs, _ => scalar? cs

/-- The items of an array up to its closing bracket. A comma may follow the last one. -/
def items? : Nat → Nat → List Char → Option (List Value × List Char)
  | 0, _, _ => none
  | fuel + 1, depth, cs =>
    match skipLines false cs with
    | ']' :: rest => some ([], rest)
    | cs =>
      match value? fuel depth cs with
      | none => none
      | some (item, rest) =>
        match skipLines false rest with
        | ',' :: rest => (items? fuel depth rest).map fun (items, rest) => (item :: items, rest)
        | ']' :: rest => some ([item], rest)
        | _ => none

/-- The entries of a table on one line up to its closing brace, added to those already read. -/
def pairs? : Nat → Nat → Section → List Char → Option (Section × List Char)
  | 0, _, _, _ => none
  | fuel + 1, depth, s, cs =>
    match path? cs with
    | some (path, key, '=' :: rest) =>
      match value? fuel depth (skipSpace rest) with
      | none => none
      | some (v, rest) =>
        match s.addValue path key v with
        | none => none
        | some s =>
          match skipSpace rest with
          | ',' :: rest => pairs? fuel depth s rest
          | '\x7d' :: rest => some (s, rest)
          | _ => none
    | _ => none

end

/-- A line that says something. -/
inductive Line where
  | pair (path : List String) (key : String) (v : Value)
  | table (path : List String) (key : String)
  | item (path : List String) (key : String)

/-- The line that starts here, and what follows it on the same line. -/
def line? (fuel : Nat) (cs : List Char) : Option (Line × List Char) :=
  match cs with
  | '[' :: '[' :: rest =>
    match path? rest with
    | some (path, key, ']' :: ']' :: rest) => some (.item path key, rest)
    | _ => none
  | '[' :: rest =>
    match path? rest with
    | some (path, key, ']' :: rest) => some (.table path key, rest)
    | _ => none
  | cs =>
    match path? cs with
    | some (path, key, '=' :: rest) =>
      (value? fuel maxDepth (skipSpace rest)).map fun (v, rest) => (.pair path key v, rest)
    | _ => none

/-- What follows the end of a line, which may have a comment before it. -/
def endOfLine? (cs : List Char) : Option (List Char) :=
  match skipComment (skipSpace cs) with
  | [] => some []
  | '\n' :: rest => some rest
  | '\r' :: '\n' :: rest => some rest
  | _ => none

def lines? (fuel : Nat) : Nat → List Char → Option (List Line)
  | 0, _ => none
  | count + 1, cs =>
    match skipLines false cs with
    | [] => some []
    | cs => do
      let (line, rest) ← line? fuel cs
      let rest ← endOfLine? rest
      let lines ← lines? fuel count rest
      return line :: lines

/-- The table whose lines are being read: where it belongs, whether it is an item of an array, and
what it holds so far. -/
structure Opened where
  path : List String
  key : String
  isItem : Bool
  inner : Section

/-- A document that has been read in part: all tables that are finished, and the one that is
not. -/
structure Draft where
  root : Section
  opened : Option Opened

namespace Draft

def close (d : Draft) : Option Section :=
  match d.opened with
  | none => some d.root
  | some o =>
    d.root.changeAt false
      (if o.isItem then Section.endItem o.key o.inner else Section.endTable o.key o.inner) o.path

/-- The table at the end of a path, as `find` sees it, in a root where the tables along the path
have been made. -/
def look (root : Section) (path : List String) (find : Section → Option Section) :
    Option Section :=
  match path with
  | [] => find root
  | key :: rest =>
    match root.get? key with
    | none => look ⟨true, false, []⟩ rest find
    | some (.table implied dotted entries) => look ⟨implied, dotted, entries⟩ rest find
    | some (.tables (entries :: _)) => look ⟨false, false, entries⟩ rest find
    | some _ => none

def add (d : Draft) : Line → Option Draft
  | .pair path key v =>
    match d.opened with
    | none => (d.root.addValue path key v).map fun root => { d with root := root }
    | some o => (o.inner.addValue path key v).map fun inner =>
        { d with opened := some { o with inner := inner } }
  | .table path key => do
    let root ← d.close
    let inner ← look root path (Section.startTable key)
    return ⟨root, some ⟨path, key, false, inner⟩⟩
  | .item path key => do
    let root ← d.close
    let inner ← look root path (Section.startItem key)
    return ⟨root, some ⟨path, key, true, inner⟩⟩

end Draft

/-- The entries of the document that lines make. -/
def assemble (lines : List Line) : Option (List (String × Value)) := do
  let d ← lines.foldlM Draft.add ⟨Section.fresh, none⟩
  let root ← d.close
  return root.toEntries

/-- The entries of a document. A byte order mark may stand before it. -/
def entriesOfText? (text : String) : Option (List (String × Value)) :=
  let cs := match text.toList with
    | '\ufeff' :: rest => rest
    | cs => cs
  let fuel := 2 * cs.length + 2
  (lines? fuel fuel cs).bind assemble

end Vicinity.Toml
