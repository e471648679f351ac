/-!
A place in a YAML text. It knows its line and column, and whether nothing but blanks stands before
it in its line. A zero character ends the text.
-/

namespace Vicinity.Yaml

def isBreak (c : Char) : Bool := c = '\n' || c = '\r'

/-- Whether a character is a blank within a line. -/
def isBlank (c : Char) : Bool := c = ' ' || c = '\t'

/-- Whether a character belongs to the notation of sequences and mappings in brackets. -/
def isFlow (c : Char) : Bool := c = ',' || c = '[' || c = ']' || c = '\x7b' || c = '\x7d'

/-- Whether a character may stand in a handle or in the name of a directive. -/
def isWord (c : Char) : Bool := c.isAlphanum || c = '_' || c = '-'

/-- A place in a text: what follows, how many characters came before, and where it lies. -/
structure Cursor where
  rest : List Char
  index : Nat
  line : Nat
  column : Nat
  fresh : Bool

namespace Cursor

def ofText (text : String) : Cursor := ⟨text.toList.takeWhile (· ≠ '\x00'), 0, 0, 0, true⟩

/-- Whether a test holds of the character that comes after `n` others; past the end it does not. -/
def holdsAt (c : Cursor) (n : Nat) (test : Char → Bool) : Bool := ((c.rest[n]?).map test).getD false

/-- Whether the text ends after `n` characters. -/
def endsAt (c : Cursor) (n : Nat) : Bool := (c.rest[n]?).isNone

def atLineEnd (c : Cursor) : Bool := c.endsAt 0 || c.holdsAt 0 isBreak

/-- Whether a word ends after `n` characters. -/
def gapAt (c : Cursor) (n : Nat) : Bool :=
  c.endsAt n || c.holdsAt n isBreak || c.holdsAt n isBlank

def blank (c : Cursor) : Cursor :=
  { c with rest := c.rest.drop 1, index := c.index + 1, column := c.column + 1 }

/-- The place after some characters of a line that are not all blank. -/
def skip (c : Cursor) (n : Nat) : Cursor :=
  { c with rest := c.rest.drop n, index := c.index + n, column := c.column + n, fresh := false }

def nextLine (c : Cursor) : Cursor :=
  match c.rest with
  | '\r' :: '\n' :: rest => ⟨rest, c.index + 2, c.line + 1, 0, true⟩
  | _ :: rest => ⟨rest, c.index + 1, c.line + 1, 0, true⟩
  | [] => c

/-- The place after the longest run of characters that pass a test and end no line. -/
def skipWhile (c : Cursor) (test : Char → Bool) : Cursor :=
  let run := c.rest.takeWhile fun x => test x && !isBreak x
  if run.isEmpty then c else c.skip run.length

/-- Whether three characters, and no more of a word, stand at the start of a line. -/
def marks (c : Cursor) (mark : String) : Bool :=
  c.column == 0 && mark.toList.isPrefixOf c.rest && c.gapAt 3

/-- Whether the mark of the start or end of a document stands here. -/
def atDocumentMark (c : Cursor) : Bool := c.marks "---" || c.marks "..."

/-- What was passed over at the end of a line. -/
structure Gap where
  place : Cursor
  tabs : Bool
  spaces : Bool

/-- Passes over at most `fuel` spaces, tabs if wanted, and a comment, which has to stand apart from
what is before it. -/
def gap (withTabs : Bool) : Nat → Gap → Option Gap
  | 0, g => some g
  | fuel + 1, g =>
    match g.place.rest with
    | ' ' :: _ => gap withTabs fuel ⟨g.place.blank, g.tabs, true⟩
    | '\t' :: _ => if withTabs then gap withTabs fuel ⟨g.place.blank, true, g.spaces⟩ else some g
    | '#' :: _ =>
      if g.tabs || g.spaces then some { g with place := g.place.skipWhile fun _ => true } else none
    | _ => some g

/-- Passes over the blanks and the comment that stand here. -/
def toLineEnd (c : Cursor) (withTabs : Bool) : Option Gap :=
  gap withTabs (c.rest.length + 1) ⟨c, false, false⟩

end Cursor

end Vicinity.Yaml
