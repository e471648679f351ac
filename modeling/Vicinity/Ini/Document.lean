import Vicinity.Json.Reader
import Vicinity.Text.Blank

/-!
INI documents: lines `key = value` or `key : value`, gathered under headings `[section]`. Everything
is text. A comment fills a line of its own, and its mark has to be the first character of the line.
-/

namespace Vicinity.Ini

open Json (hexValue?)
open Text (isBlank trimList)

/-- The entries under a heading, or before the first one. A key may occur more than once. -/
structure Section where
  name : Option String
  entries : List (String × String)

/-- The character with the number that four characters give in hexadecimal, perhaps after a plus
sign. -/
def numbered? (cs : List Char) : Option Char :=
  let digits := match cs with
    | '+' :: rest => rest
    | cs => cs
  (digits.mapM hexValue?).bind fun ds =>
    let n := ds.foldl (fun n d => 16 * n + d) 0
    if n.isValidChar then some (Char.ofNat n) else none

/-- What a character after a backslash stands for. A line end there is passed over. -/
def escaped (c : Char) : List Char :=
  if c = '0' then ['\x00']
  else if c = 'a' then ['\x07']
  else if c = 'b' then ['\x08']
  else if c = 't' then ['\t']
  else if c = 'r' then ['\r']
  else if c = 'n' then ['\n']
  else if c = '\n' then []
  else [c]

/-- The text up to the first character that `ends` it, after what was read of it, and the rest from
that character on. A text that nothing ends goes up to the end of the document if it may. -/
def readText (ends : Char → Bool) (mayEnd : Bool) (read : List Char) :
    List Char → Option (List Char × List Char)
  | [] => if mayEnd then some (read.reverse, []) else none
  | c :: rest =>
    if ends c then some (read.reverse, c :: rest)
    else if c ≠ '\\' then readText ends mayEnd (c :: read) rest
    else
      match rest with
      | 'x' :: h1 :: h2 :: h3 :: h4 :: rest =>
        (numbered? [h1, h2, h3, h4]).bind fun x => readText ends mayEnd (x :: read) rest
      | 'x' :: _ => none
      | e :: rest => readText ends mayEnd ((escaped e).reverse ++ read) rest
      | [] => none

def endsLine (c : Char) : Bool := c = '\n' || c = '\r'

/-- The rest of a value up to the end of its line, and what follows it. Parts in quotes are kept as
they are; from the first other character on, quotes mean nothing. `first` tells whether no part was
read yet: only then blanks are dropped in front. -/
def readValue : Nat → Bool → List Char → Option (List Char × List Char)
  | 0, _, _ => none
  | _, _, [] => some ([], [])
  | fuel + 1, first, c :: rest =>
    if c = '"' ∨ c = '\'' then
      match readText (· = c) false [] rest with
      | some (part, rest) =>
        (readValue fuel false (rest.drop 1)).map fun (value, rest) => (part ++ value, rest)
      | none => none
    else
      (readText endsLine true [] (c :: rest)).map fun (part, rest) =>
        let part := if first then part.dropWhile isBlank else part
        ((part.reverse.dropWhile isBlank).reverse, rest)

/-- The value after the sign that follows a key. -/
def valueOf? (cs : List Char) : Option (List Char × List Char) :=
  let cs := cs.dropWhile fun c => isBlank c && !endsLine c
  readValue (cs.length + 1) true cs

def addEntry (key value : String) : List Section → List Section
  | [] => [⟨none, [(key, value)]⟩]
  | s :: rest => ⟨s.name, s.entries ++ [(key, value)]⟩ :: rest

/-- The sections of the rest of a document, the last one first. `fresh` tells whether a line starts
here. -/
def readSections : Nat → List Section → Bool → List Char → Option (List Section)
  | 0, _, _, _ => none
  | fuel + 1, sections, fresh, cs =>
    let blanks := cs.takeWhile isBlank
    let fresh : Bool := match blanks.getLast? with
      | some c => c == '\n'
      | none => fresh
    match cs.drop blanks.length with
    | [] => some sections
    | c :: rest =>
      if c = ';' ∨ c = '#' then
        if fresh then readSections fuel sections true ((rest.dropWhile (· ≠ '\n')).drop 1) else none
      else if c = '[' then
        match readText (· = ']') false [] rest with
        | some (name, rest) =>
          let heading := Section.mk (some (String.ofList (trimList name))) []
          readSections fuel (heading :: sections) false (rest.drop 1)
        | none => none
      else
        match readText (fun c => c = '=' || c = ':') false [] (c :: rest) with
        | some (key, rest) =>
          if (trimList key).isEmpty then none
          else
            match valueOf? (rest.drop 1) with
            | some (value, rest) =>
              let entry := addEntry (String.ofList (trimList key)) (String.ofList value) sections
              readSections fuel entry false rest
            | none => none
        | none => none

/-- The sections of a document in their order. -/
def sectionsOfText? (text : String) : Option (List Section) :=
  let cs := text.toList
  (readSections (cs.length + 1) [] true cs).map List.reverse

end Vicinity.Ini
