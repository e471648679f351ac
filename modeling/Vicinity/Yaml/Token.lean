import Vicinity.Text.Letters
import Vicinity.Yaml.Scalar

/-!
The tokens of a YAML text. Indentation gives blocks their start and end. Whether a node is the key
of a mapping shows only at the colon behind it, so the place where a key may start is kept until
then.
-/

namespace Vicinity.Yaml

/-- A token. A scalar tells whether it stands without quotes and marks. -/
inductive Token where
  | versionDirective
  | tagDirective (handle start : String)
  | documentStart
  | documentEnd
  | blockSequenceStart
  | blockMappingStart
  | blockEntry
  | blockEnd
  | flowSequenceStart
  | flowSequenceEnd
  | flowMappingStart
  | flowMappingEnd
  | flowEntry
  | key
  | value
  | alias (name : String)
  | anchor (name : String)
  | tag (handle suffix : String)
  | scalar (plain : Bool) (text : String)
  deriving DecidableEq

/-- A place where a key may have started: the number of tokens before it, and where it lies. A
required one has to turn out a key. -/
structure KeyStart where
  possible : Bool
  required : Bool
  token : Nat
  index : Nat
  line : Nat
  column : Nat

def KeyStart.none : KeyStart := ⟨false, false, 0, 0, 0, 0⟩

/-- What encloses the place that is read: a block at some column, with a token at its end or
without one. -/
structure Indent where
  outer : Int
  closes : Bool

/-- How far a text has been read. `keys` holds a key start for each open bracket and one for the
blocks, the innermost first, and `brackets` the closing tokens of the open brackets. `adjacent` is
the index at which a colon needs no gap behind it. -/
structure Scan where
  place : Cursor
  tokens : List Token
  indent : Int
  indents : List Indent
  keyAllowed : Bool
  keys : List KeyStart
  brackets : List Token
  adjacent : Nat
  anchorAtMargin : Bool

namespace Scan

def ofText (text : String) : Scan :=
  { place := Cursor.ofText text, tokens := [], indent := -1, indents := [], keyAllowed := true,
    keys := [KeyStart.none], brackets := [], adjacent := 0, anchorAtMargin := false }

def inFlow (s : Scan) : Bool := !s.brackets.isEmpty

def push (s : Scan) (t : Token) : Scan :=
  { s with tokens := s.tokens ++ [t], anchorAtMargin := false }

/-- Adds a token before those from a given number on. -/
def insert (s : Scan) (number : Nat) (t : Token) : Scan :=
  { s with tokens := s.tokens.take number ++ t :: s.tokens.drop number }

/-- Closes the blocks that start beyond a column; at most `fuel` of them. -/
def closeBlocks (column : Int) : Nat → Scan → Scan
  | 0, s => s
  | fuel + 1, s =>
    match s.indents with
    | [] => s
    | i :: rest =>
      if s.indent ≤ column then s
      else
        let s := { s with indent := i.outer, indents := rest }
        closeBlocks column fuel (if i.closes then s.push .blockEnd else s)

/-- Closes the blocks that start beyond a column, unless brackets are open. -/
def endBlocks (s : Scan) (column : Int) : Scan :=
  if s.inFlow then s else s.closeBlocks column s.indents.length

/-- Forgets the innermost indentation if it closes nothing. -/
def dropOpenIndent (s : Scan) : Scan :=
  match s.indents with
  | i :: rest => if i.closes then s else { s with indent := i.outer, indents := rest }
  | [] => s

/-- Starts a block at a column if it lies deeper than the block around it. The token goes before
those from a given number on. -/
def startBlock (s : Scan) (column number : Nat) (t : Token) : Scan :=
  if s.inFlow then s
  else
    let s := if s.indent ≤ (column : Int) then s.dropOpenIndent else s
    if s.indent < (column : Int) then
      { s.insert number t with
        indent := column, indents := ⟨s.indent, true⟩ :: s.indents, anchorAtMargin := false }
    else s

/-- Asks for one more column than the block has, without starting another one. -/
def indentByOne (s : Scan) : Scan :=
  match s.indents with
  | i :: _ =>
    if !s.inFlow ∧ i.closes then
      { s with indent := s.indent + 1, indents := ⟨s.indent, false⟩ :: s.indents }
    else s
  | [] => s

def keyStart (s : Scan) : KeyStart := s.keys.headD KeyStart.none

def noteKey (s : Scan) : Scan :=
  if s.keyAllowed then
    let closes := (s.indents.head?.map (·.closes)).getD false
    let required := !s.inFlow && s.indent == (s.place.column : Int) && closes
    let start : KeyStart :=
      ⟨true, required, s.tokens.length, s.place.index, s.place.line, s.place.column⟩
    { s with keys := start :: s.keys.drop 1 }
  else s

/-- Gives up the innermost key start; `none` if it had to be a key. -/
def giveUpKey (s : Scan) : Option Scan :=
  let k := s.keyStart
  if k.possible ∧ k.required then none
  else some { s with keys := { k with possible := false } :: s.keys.drop 1 }

/-- The longest distance, in characters, from the start of a key to its colon. -/
def maxKeyLength : Nat := 1024

/-- Gives up the key starts that are too far away to be keys; `none` if one had to be a key. -/
def giveUpFarKeys (s : Scan) : Option Scan :=
  let far (k : KeyStart) : Bool :=
    k.possible && !s.inFlow && (k.line < s.place.line || k.index + maxKeyLength < s.place.index)
  if s.keys.any fun k => far k && k.required then none
  else some { s with keys := s.keys.map fun k => if far k then { k with possible := false } else k }

/-- Passes over blanks, line ends and comments before the next token, at most `fuel` of them. A tab
may not indent a block. -/
def toToken : Nat → Scan → Option Scan
  | 0, s => some s
  | fuel + 1, s =>
    match s.place.rest with
    | [] => some s
    | x :: _ =>
      if x = '\t' ∧ !s.indents.isEmpty ∧ s.place.fresh ∧ (s.place.column : Int) < s.indent then
        (s.place.toLineEnd true).bind fun gap =>
          if gap.place.atLineEnd then toToken fuel { s with place := gap.place } else none
      else if isBlank x then toToken fuel { s with place := s.place.blank }
      else if isBreak x then
        let keyAllowed := s.keyAllowed || !s.inFlow
        toToken fuel { s with place := s.place.nextLine, keyAllowed }
      else if x = '#' then toToken fuel { s with place := s.place.skipWhile fun _ => true }
      else some s

/-- Passes over the blanks and the comment that stand here. -/
def passGap (s : Scan) : Option Scan :=
  (s.place.toLineEnd true).map fun gap => { s with place := gap.place }

/-! Directives and document marks -/

def afterDigits (c : Cursor) : Option Cursor :=
  let digits := c.rest.takeWhile Char.isDigit
  if digits.isEmpty ∨ 9 < digits.length then none else some (c.skip digits.length)

/-- Whether a character may stand in the start of tags that a directive gives, or in a tag that is
written out. -/
def isTagStartChar (c : Char) : Bool := c.isAlphanum || "-#;/?:@&=+$,_.!~*'()[]%".toList.contains c

/-- Whether a character may stand in a tag behind its handle. -/
def isTagChar (c : Char) : Bool := isTagStartChar c && !isFlow c && c != '!'

/-- The handle of a tag: words between exclamation marks, the second of which may be missing where
no directive wants it. -/
def readHandle (directive : Bool) (c : Cursor) : Option (String × Cursor) :=
  if c.holdsAt 0 (· = '!') then
    let word := (c.rest.drop 1).takeWhile isWord
    let after := c.skip (word.length + 1)
    if after.holdsAt 0 (· = '!') then some (String.ofList ('!' :: word ++ ['!']), after.skip 1)
    else if directive ∧ !word.isEmpty then none
    else some (String.ofList ('!' :: word), after)
  else none

/-- The byte that a percent sign and two hexadecimal digits stand for. -/
def escapedByte? : List Char → Option Nat
  | '%' :: a :: b :: _ =>
    match Json.hexValue? a, Json.hexValue? b with
    | some a, some b => some (16 * a + b)
    | _, _ => none
  | _ => none

/-- How many bytes a character takes that starts with some byte. -/
def byteCount? (first : Nat) : Option Nat :=
  if first < 0x80 then some 1
  else if first / 0x20 = 6 then some 2
  else if first / 0x10 = 14 then some 3
  else if first / 8 = 30 then some 4
  else none

/-- The character that the bytes of an escape stand for, and the number of characters they take. Its
number has the bytes for its digits. -/
def escapedChar? (cs : List Char) : Option (Char × Nat) :=
  match escapedByte? cs with
  | none => none
  | some first =>
    (byteCount? first).bind fun count =>
      let others := (List.range (count - 1)).mapM fun i => escapedByte? (cs.drop (3 * (i + 1)))
      others.bind fun bytes =>
        let n := bytes.foldl (fun n b => 256 * n + b) first
        if (bytes.all fun b => b / 0x40 = 2) ∧ n.isValidChar then some (Char.ofNat n, 3 * count)
        else none

/-- The longest run of characters that pass a test, after what was read of it. In it a percent sign
starts an escape. -/
def readUri (test : Char → Bool) : Nat → List Char → Cursor → Option (List Char × Cursor)
  | 0, read, c => some (read.reverse, c)
  | fuel + 1, read, c =>
    match c.rest with
    | [] => some (read.reverse, c)
    | x :: _ =>
      if !test x then some (read.reverse, c)
      else if x ≠ '%' then readUri test fuel (x :: read) (c.skip 1)
      else
        (escapedChar? c.rest).bind fun (y, length) =>
          readUri test fuel (y :: read) (c.skip length)

def readTagDirective (c : Cursor) : Option (Token × Cursor) :=
  (readHandle true (c.skipWhile isBlank)).bind fun (handle, c) =>
    let c := c.skipWhile isBlank
    if !c.holdsAt 0 fun x => x == '!' || isTagChar x then none
    else
      (readUri isTagStartChar (c.rest.length + 1) [] c).bind fun (text, c) =>
        if c.gapAt 0 then some (.tagDirective handle (String.ofList text), c) else none

/-- The directive that starts here; one of an unknown name says nothing. -/
def readDirective (c : Cursor) : Option (Token × Cursor) :=
  let c := c.skip 1
  let name := c.rest.takeWhile isWord
  let after := c.skip name.length
  if name.isEmpty ∨ !after.gapAt 0 then none
  else if name = ['Y', 'A', 'M', 'L'] then
    match afterDigits (after.skipWhile isBlank) with
    | none => none
    | some c =>
      if c.holdsAt 0 (· = '.') then
        (afterDigits (c.skip 1)).map fun c => (.versionDirective, c)
      else none
  else if name = ['T', 'A', 'G'] then readTagDirective after
  else some (.tagDirective "" "", after.skipWhile fun _ => true)

/-- Ends all blocks, as at the edge of a document. -/
def leaveBlocks (s : Scan) : Option Scan :=
  (s.endBlocks (-1)).giveUpKey.map fun s => { s with keyAllowed := false }

def directive (s : Scan) : Option Scan :=
  match s.leaveBlocks, readDirective s.place with
  | some s, some (t, c) =>
    (c.toLineEnd true).bind fun gap =>
      if gap.place.atLineEnd then some ({ s with place := gap.place.nextLine }.push t) else none
  | _, _ => none

/-- The mark at the start or end of a document. -/
def documentMark (s : Scan) (t : Token) : Option Scan :=
  s.leaveBlocks.bind fun s =>
    let s := { s with place := s.place.skip 3 }.push t
    if t = .documentEnd then
      s.passGap.bind fun s => if s.place.atLineEnd then some s else none
    else some s

/-! Brackets -/

def openBracket (s : Scan) (opening closing : Token) : Option Scan :=
  let s := s.noteKey.indentByOne
  let s := { s with
    keys := KeyStart.none :: s.keys, brackets := closing :: s.brackets, keyAllowed := true,
    place := s.place.skip 1 }
  s.passGap.map fun s => s.push opening

def closeBracket (s : Scan) (closing : Token) : Option Scan :=
  s.giveUpKey.bind fun s =>
    let s := if s.inFlow then { s with keys := s.keys.drop 1, brackets := s.brackets.drop 1 } else s
    let s := { s with keyAllowed := false, place := s.place.skip 1 }
    s.passGap.map fun s =>
      { s.push closing with adjacent := if s.inFlow then s.place.index else s.adjacent }

def comma (s : Scan) : Option Scan :=
  s.giveUpKey.bind fun s =>
    let s := { s with keyAllowed := true, place := s.place.skip 1 }
    s.passGap.map fun s => s.push .flowEntry

/-! Entries of blocks -/

def dash (s : Scan) : Option Scan :=
  if s.inFlow ∨ !s.keyAllowed then none
  else if s.anchorAtMargin ∧ s.place.column = 0 ∧ -1 < s.indent then none
  else
    let column := s.place.column
    let s := { s with place := s.place.skip 1 }
    let s := s.startBlock column s.tokens.length .blockSequenceStart
    match s.place.toLineEnd true with
    | none => none
    | some gap =>
      let c := gap.place
      if gap.tabs ∧ c.holdsAt 0 (· = '-') ∧ c.gapAt 1 then none
      else
        let s := { s with place := c }
        let s := if c.holdsAt 0 (fun x => isBreak x || isFlow x) then s.indentByOne else s
        s.giveUpKey.map fun s => { s with keyAllowed := true }.push .blockEntry

/-- Passes over blanks, line ends and comments behind a question mark; a tab is refused. -/
def afterQuestion : Nat → Scan → Scan
  | 0, s => s
  | fuel + 1, s =>
    match s.place.rest with
    | [] => s
    | x :: _ =>
      if x = ' ' then afterQuestion fuel { s with place := s.place.blank }
      else if isBreak x then
        let keyAllowed := s.keyAllowed || !s.inFlow
        afterQuestion fuel { s with place := s.place.nextLine, keyAllowed }
      else if x = '#' then afterQuestion fuel { s with place := s.place.skipWhile fun _ => true }
      else s

def question (s : Scan) : Option Scan :=
  if !s.inFlow ∧ !s.keyAllowed then none
  else
    (s.startBlock s.place.column s.tokens.length .blockMappingStart).giveUpKey.bind fun s =>
      let s := afterQuestion (s.place.rest.length + 1)
        { s with keyAllowed := !s.inFlow, place := s.place.skip 1 }
      if s.place.holdsAt 0 (· = '\t') then none else some (s.push .key)

def colon (s : Scan) : Option Scan :=
  let start := s.place
  let k := s.keyStart
  let after := start.skip 1
  let blanks := after.skipWhile isBlank
  let onlyTabs := after.holdsAt 0 (· = '\t') &&
    (after.rest.take (blanks.index - after.index)).all (· = '\t')
  if onlyTabs ∧ blanks.holdsAt 0 fun x => x == '-' || Text.isLetter x || x.isDigit then none
  else
    let s := { s with place := if after.holdsAt 0 (· = '\t') then blanks else after }
    if k.possible then
      if s.brackets.head? = some .flowSequenceEnd ∧ k.line < start.line then none
      else
        let s := (s.insert k.token .key).startBlock k.column k.token .blockMappingStart
        let s := s.indentByOne
        let keys := { k with possible := false } :: s.keys.drop 1
        some ({ s with keys, keyAllowed := false }.push .value)
    else if !s.inFlow ∧ !s.keyAllowed then none
    else
      let s := (s.startBlock start.column s.tokens.length .blockMappingStart).indentByOne
      some ({ s with keyAllowed := !s.inFlow }.push .value)

/-! Nodes -/

def anchor (s : Scan) (make : String → Token) : Option Scan :=
  let s := s.noteKey
  let c := s.place.skip 1
  let name := c.rest.takeWhile fun x => !(isBlank x || isBreak x || isFlow x || x == '\ufeff')
  if name.isEmpty then none
  else
    let t := make (String.ofList name)
    let margin := s.place.column = 0 ∧ t = .anchor (String.ofList name)
    some { { s with keyAllowed := false, place := c.skip name.length }.push t with
      anchorAtMargin := margin }

def readTag (c : Cursor) : Option (String × String × Cursor) :=
  if c.holdsAt 1 (· = '<') then
    (readUri isTagStartChar (c.rest.length + 1) [] (c.skip 2)).bind fun (uri, c) =>
      if c.holdsAt 0 (· = '>') then some ("", String.ofList uri, c.skip 1) else none
  else
    (readHandle false c).bind fun (handle, c) =>
      let isHandle := handle.length ≥ 2 && handle.endsWith "!"
      let start := if isHandle then [] else handle.toList.drop 1
      (readUri isTagChar (c.rest.length + 1) start.reverse c).bind fun (suffix, c) =>
        if isHandle then some (handle, String.ofList suffix, c)
        else if suffix.isEmpty then some ("", "!", c)
        else some ("!", String.ofList suffix, c)

def tag (s : Scan) : Option Scan :=
  let s := s.noteKey
  (readTag s.place).bind fun (handle, suffix, c) =>
    if c.gapAt 0 ∨ (s.inFlow ∧ c.holdsAt 0 isFlow) then
      some { { s with keyAllowed := false, place := c }.push (.tag handle suffix) with
        anchorAtMargin := s.place.column = 0 }
    else none

def quoted (s : Scan) (single : Bool) : Option Scan :=
  let s := { s.noteKey with keyAllowed := false }
  (scanQuoted single s.indent s.inFlow s.place).bind fun (text, c) =>
    (toToken (c.rest.length + 1) { s with place := c }).map fun s =>
      { s with adjacent := s.place.index }.push (.scalar false text)

def plain (s : Scan) : Option Scan :=
  let s := { s.noteKey with keyAllowed := false }.dropOpenIndent
  (scanPlain (s.indent + 1) s.inFlow s.place).map fun (text, c) =>
    { s with place := c, keyAllowed := c.fresh }.push (.scalar true text)

def block (s : Scan) (literal : Bool) : Option Scan :=
  let s := { s.noteKey with keyAllowed := true }.dropOpenIndent
  (scanBlock literal s.indent s.place).map fun (text, c) =>
    { s with place := c }.push (.scalar false text)

def colonAt (s : Scan) : Bool :=
  s.place.gapAt 1 ||
    (s.inFlow && (s.place.holdsAt 1 isFlow || s.place.index == s.adjacent))

def token (s : Scan) (x : Char) : Option Scan :=
  if x = '[' then s.openBracket .flowSequenceStart .flowSequenceEnd
  else if x = '\x7b' then s.openBracket .flowMappingStart .flowMappingEnd
  else if x = ']' then s.closeBracket .flowSequenceEnd
  else if x = '\x7d' then s.closeBracket .flowMappingEnd
  else if x = ',' then s.comma
  else if x = '-' ∧ s.place.gapAt 1 then s.dash
  else if x = '?' ∧ s.place.gapAt 1 then s.question
  else if x = ':' ∧ s.colonAt then s.colon
  else if x = '*' then s.anchor .alias
  else if x = '&' then s.anchor .anchor
  else if x = '!' then s.tag
  else if x = '|' ∧ !s.inFlow then s.block true
  else if x = '>' ∧ !s.inFlow then s.block false
  else if x = '\'' then s.quoted true
  else if x = '"' then s.quoted false
  else if x = '%' ∨ x = '@' ∨ x = '\x60' then none
  else s.plain

/-- Reads the next token, if one is left. -/
def step (s : Scan) : Option Scan :=
  (toToken (s.place.rest.length + 1) s).bind giveUpFarKeys |>.bind fun s =>
    let s := s.endBlocks s.place.column
    match s.place.rest with
    | [] => some s
    | x :: _ =>
      if s.place.column = 0 ∧ x = '%' then s.directive
      else if s.place.marks "---" then s.documentMark .documentStart
      else if s.place.marks "..." then s.documentMark .documentEnd
      else if (s.place.column : Int) < s.indent then none
      else s.token x

def run : Nat → Scan → Option Scan
  | 0, _ => none
  | fuel + 1, s =>
    s.step.bind fun s =>
      if s.place.rest.isEmpty then
        if s.keys.any fun k => k.possible && k.required then none else some (s.endBlocks (-1))
      else run fuel s

end Scan

def tokensOfText? (text : String) : Option (List Token) :=
  (Scan.run (text.length + 2) (Scan.ofText text)).map (·.tokens)

end Vicinity.Yaml
