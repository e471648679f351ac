import Vicinity.Json.Reader
import Vicinity.Yaml.Cursor

/-!
The texts of YAML scalars. A text that goes on over several lines is folded: one line end becomes a
space, and of several the first one is dropped.
-/

namespace Vicinity.Yaml

open Json (hexValue?)

/-- What stands between two words of a scalar: blanks, last one first, or line ends. `folded` tells
whether a line end was passed, `counted` whether it is one that becomes a space, and `breaks` how
many came after it. -/
structure Fold where
  spaces : List Char
  folded : Bool
  counted : Bool
  breaks : Nat

namespace Fold

def none : Fold := ⟨[], false, false, 0⟩

/-- The text that takes the place of what stands between two words. -/
def text (f : Fold) : List Char :=
  if !f.folded then f.spaces.reverse
  else if f.counted && f.breaks == 0 then [' ']
  else List.replicate f.breaks '\n'

def addBreak (f : Fold) : Fold :=
  if f.folded then { f with breaks := f.breaks + 1 } else ⟨[], true, true, f.breaks⟩

end Fold

/-- Passes over blanks and line ends between two words. A tab may not take the place of a space
before column `indent`; where it may fill an otherwise empty line, `tabLines` tells. -/
def skipFold (indent : Int) (tabLines : Bool) : Nat → Fold → Cursor → Option (Fold × Cursor)
  | 0, f, c => some (f, c)
  | fuel + 1, f, c =>
    match c.rest with
    | [] => some (f, c)
    | x :: _ =>
      if isBreak x then skipFold indent tabLines fuel f.addBreak c.nextLine
      else if isBlank x then
        if !f.folded then
          skipFold indent tabLines fuel { f with spaces := x :: f.spaces } c.blank
        else if x = '\t' ∧ (c.column : Int) < indent then
          if tabLines then
            (c.toLineEnd true).bind fun gap =>
              if gap.place.atLineEnd then skipFold indent tabLines fuel f gap.place else none
          else none
        else skipFold indent tabLines fuel f c.blank
      else some (f, c)

/-! Quoted scalars -/

/-- What a letter after a backslash stands for. -/
def escaped? (c : Char) : Option Char :=
  [('0', '\x00'), ('a', '\x07'), ('b', '\x08'), ('t', '\t'), ('\t', '\t'), ('n', '\n'),
    ('v', '\x0b'), ('f', '\x0c'), ('r', '\r'), ('e', '\x1b'), (' ', ' '), ('"', '"'), ('/', '/'),
    ('\\', '\\'), ('N', '\u0085'), ('_', '\u00a0'), ('L', '\u2028'), ('P', '\u2029')].lookup c

/-- The character of an escape after its backslash, and the number of characters it takes. -/
def escape? : List Char → Option (Char × Nat)
  | [] => none
  | c :: rest =>
    match [('x', 2), ('u', 4), ('U', 8)].lookup c with
    | none => (escaped? c).map fun x => (x, 1)
    | some length =>
      match (rest.take length).mapM hexValue? with
      | none => none
      | some ds =>
        let n := ds.foldl (fun n d => 16 * n + d) 0
        if ds.length = length ∧ n.isValidChar then some (Char.ofNat n, length + 1) else none

/-- A word of a quoted scalar, after what was read of it: up to a blank, a line end or the closing
quote. The flag tells whether a backslash ended the line. -/
def readWord (single : Bool) : Nat → List Char → Cursor → Option (List Char × Bool × Cursor)
  | 0, read, c => some (read, false, c)
  | fuel + 1, read, c =>
    match c.rest with
    | [] => some (read, false, c)
    | x :: rest =>
      if isBlank x ∨ isBreak x then some (read, false, c)
      else if single then
        if x ≠ '\'' then readWord single fuel (x :: read) (c.skip 1)
        else if rest.head? = some '\'' then readWord single fuel (x :: read) (c.skip 2)
        else some (read, false, c)
      else if x = '"' then some (read, false, c)
      else if x ≠ '\\' then readWord single fuel (x :: read) (c.skip 1)
      else if c.holdsAt 1 isBreak then some (read, true, (c.skip 1).nextLine)
      else (escape? rest).bind fun (y, length) =>
        readWord single fuel (y :: read) (c.skip (length + 1))

/-- The rest of a quoted scalar, after what was read of it, and the place after its closing
quote. -/
def readQuoted (single : Bool) (indent : Int) :
    Nat → List Char → Cursor → Option (String × Cursor)
  | 0, _, _ => none
  | fuel + 1, read, c =>
    if c.atDocumentMark ∨ c.endsAt 0 ∨ (c.column : Int) < indent then none
    else
      match readWord single (c.rest.length + 1) read c with
      | none => none
      | some (read, escaped, c) =>
        if c.holdsAt 0 (· = if single then '\'' else '"') then
          some (String.ofList read.reverse, c.skip 1)
        else
          let start : Fold := { Fold.none with folded := escaped }
          match skipFold indent false (c.rest.length + 1) start c with
          | none => none
          | some (fold, c) => readQuoted single indent fuel (fold.text.reverse ++ read) c

/-- Whether what follows a quoted scalar may follow it. Outside brackets a key keeps to one line. -/
def mayFollowQuoted (inFlow : Bool) (startLine : Nat) (c : Cursor) : Bool :=
  c.atLineEnd || c.holdsAt 0 fun x =>
    (x == ':' && (inFlow || c.line == startLine)) ||
      (inFlow && (x == ',' || x == ']' || x == '\x7d'))

/-- A quoted scalar, and the place after it and the blanks behind it. -/
def scanQuoted (single : Bool) (indent : Int) (inFlow : Bool) (c : Cursor) :
    Option (String × Cursor) :=
  match readQuoted single indent (c.rest.length + 1) [] (c.skip 1) with
  | none => none
  | some (text, after) =>
    (after.toLineEnd true).bind fun gap =>
      if mayFollowQuoted inFlow c.line gap.place then some (text, gap.place) else none

/-! Plain scalars -/

/-- Whether the character here may stand in a plain scalar. -/
def isPlainAt (inFlow : Bool) (c : Cursor) : Bool :=
  !c.gapAt 0 && c.holdsAt 0 fun x =>
    if x == ':' then !(c.gapAt 1 || (inFlow && c.holdsAt 1 isFlow)) else !(inFlow && isFlow x)

/-- A word of a plain scalar, after what was read of it. -/
def readPlainWord (inFlow : Bool) : Nat → List Char → Cursor → List Char × Cursor
  | 0, read, c => (read, c)
  | fuel + 1, read, c =>
    match c.rest with
    | x :: _ =>
      if isPlainAt inFlow c then readPlainWord inFlow fuel (x :: read) (c.skip 1) else (read, c)
    | [] => (read, c)

/-- The rest of a plain scalar, after what was read of it and what stands behind that. -/
def readPlain (indent : Int) (inFlow : Bool) :
    Nat → List Char → Fold → Cursor → Option (String × Cursor)
  | 0, _, _, _ => none
  | fuel + 1, read, fold, c =>
    let finished (read : List Char) (c : Cursor) := some (String.ofList read.reverse, c)
    if c.atDocumentMark ∨ c.holdsAt 0 (· = '#') then finished read c
    else if inFlow ∧ c.holdsAt 0 (· = '-') ∧ c.holdsAt 1 isFlow then none
    else
      let (read, fold, c) :=
        if isPlainAt inFlow c then
          let (read, c) := readPlainWord inFlow (c.rest.length + 1) (fold.text.reverse ++ read) c
          (read, Fold.none, c)
        else (read, fold, c)
      if !c.holdsAt 0 fun x => isBlank x || isBreak x then finished read c
      else
        match skipFold indent true (c.rest.length + 1) fold c with
        | none => none
        | some (fold, c) =>
          if !inFlow ∧ (c.column : Int) < indent then finished read c
          else readPlain indent inFlow fuel read fold c

/-- A plain scalar whose lines start at column `indent` at least, and the place after it. -/
def scanPlain (indent : Int) (inFlow : Bool) (c : Cursor) : Option (String × Cursor) :=
  if inFlow ∧ (c.column : Int) < indent then none
  else readPlain indent inFlow (c.rest.length + 2) [] Fold.none c

/-! Block scalars -/

/-- What becomes of the line ends at the end of a block scalar. -/
inductive Chomping where
  | strip
  | clip
  | keep
  deriving DecidableEq

def chomping? (c : Char) : Option Chomping :=
  if c = '+' then some .keep else if c = '-' then some .strip else none

/-- The sign and the digit at the start of a block scalar, in either order, and the place after
them. Without a digit the increment is zero. -/
def readHeader (c : Cursor) : Option (Chomping × Nat × Cursor) :=
  let digitAt (n : Nat) : Option Nat :=
    (c.rest[n]?).bind fun x => if x.isDigit then some (x.toNat - '0'.toNat) else none
  let signAt (n : Nat) : Option Chomping := (c.rest[n]?).bind chomping?
  match signAt 0, digitAt 0 with
  | some sign, _ =>
    match digitAt 1 with
    | some 0 => none
    | some d => some (sign, d, c.skip 2)
    | none => some (sign, 0, c.skip 1)
  | none, some 0 => none
  | none, some d =>
    match signAt 1 with
    | some sign => some (sign, d, c.skip 2)
    | none => some (.clip, d, c.skip 1)
  | none, none => some (.clip, 0, c)

/-- Passes over the indentation of a line and over empty lines before it, and counts these. -/
def skipIndent (indent : Nat) : Nat → Nat → Cursor → Nat × Cursor
  | 0, breaks, c => (breaks, c)
  | fuel + 1, breaks, c =>
    match c.rest with
    | [] => (breaks, c)
    | x :: _ =>
      if c.column < indent ∧ x = ' ' then skipIndent indent fuel breaks c.blank
      else if isBreak x then skipIndent indent fuel (breaks + 1) c.nextLine
      else (breaks, c)

/-- Passes over empty lines and the indentation of the first other one. Gives the greatest column
reached and the number of empty lines. -/
def findIndent : Nat → Nat → Nat → Cursor → Nat × Nat × Cursor
  | 0, widest, breaks, c => (widest, breaks, c)
  | fuel + 1, widest, breaks, c =>
    match c.rest with
    | [] => (widest, breaks, c)
    | x :: _ =>
      if x = ' ' then findIndent fuel (max widest (c.column + 1)) breaks c.blank
      else if isBreak x then findIndent fuel widest (breaks + 1) c.nextLine
      else (widest, breaks, c)

/-- The lines of a block scalar read so far, the last character first. `lineEnd` tells whether the
last line has an end, `indented` whether it starts with a blank, and `breaks` counts the empty lines
after it. -/
structure Lines where
  read : List Char
  lineEnd : Bool
  indented : Bool
  breaks : Nat

/-- What joins the lines read so far to the next one. -/
def Lines.joint (l : Lines) (literal nextIndented : Bool) : List Char :=
  let breaks := List.replicate l.breaks '\n'
  if !literal && l.lineEnd && !l.indented && !nextIndented then
    if l.breaks = 0 then [' '] else breaks
  else (if l.lineEnd then ['\n'] else []) ++ breaks

/-- Reads the lines of a block scalar that start at column `indent`. -/
def readLines (literal : Bool) (indent : Nat) : Nat → Lines → Cursor → Lines × Cursor
  | 0, l, c => (l, c)
  | fuel + 1, l, c =>
    if c.column ≠ indent ∨ c.endsAt 0 ∨ (indent = 0 ∧ c.atDocumentMark) then (l, c)
    else
      let indented := c.holdsAt 0 isBlank
      let content := c.rest.takeWhile fun x => !isBreak x
      let read := content.reverse ++ ((l.joint literal indented).reverse ++ l.read)
      let c := c.skipWhile fun _ => true
      if c.endsAt 0 then (⟨read, false, indented, 0⟩, c)
      else
        let (breaks, c) := skipIndent indent (c.rest.length + 1) 0 c.nextLine
        readLines literal indent fuel ⟨read, true, indented, breaks⟩ c

/-- The text of a block scalar whose lines have been read up to a place. -/
def Lines.text (l : Lines) (chomping : Chomping) (indent : Nat) (c : Cursor) : String :=
  let ending := if l.lineEnd then ['\n'] else []
  let last := if c.endsAt 0 ∧ max indent 1 ≤ c.column then ['\n'] else []
  let breaks := List.replicate l.breaks '\n'
  String.ofList (l.read.reverse ++
    match chomping with
    | .strip => []
    | .clip => ending ++ last
    | .keep => ending ++ last ++ breaks)

/-- The text of a block scalar that has no lines before the end of the document: nothing, or line
ends. `broken` tells whether its first line has an end. -/
def emptyBlock (chomping : Chomping) (broken : Bool) (breaks : Nat) : String :=
  let first := if broken then "\n" else ""
  match chomping with
  | .strip => ""
  | .clip => first
  | .keep => if breaks = 0 then first else String.ofList (List.replicate breaks '\n')

/-- A block scalar within a block at column `outer`, and the place after it. -/
def scanBlock (literal : Bool) (outer : Int) (c : Cursor) : Option (String × Cursor) :=
  match readHeader (c.skip 1) with
  | none => none
  | some (chomping, increment, header) =>
    match header.toLineEnd true with
    | none => none
    | some gap =>
      if !gap.place.atLineEnd then none
      else
        let broken := gap.place.holdsAt 0 isBreak
        let start := if broken then gap.place.nextLine else gap.place
        if start.holdsAt 0 (· = '\t') then none
        else
          let fuel := start.rest.length + 1
          let (indent, breaks, first) :=
            if increment = 0 then
              let (widest, breaks, first) := findIndent fuel start.column 0 start
              (max widest (outer + 1).toNat, breaks, first)
            else
              let indent := (max outer 0).toNat + increment
              let (breaks, first) := skipIndent indent fuel 0 start
              (indent, breaks, first)
          if first.endsAt 0 then
            some (if first.line = c.line then "" else emptyBlock chomping broken breaks, first)
          else if first.column < indent ∧ outer < (first.column : Int) then none
          else
            let (lines, after) := readLines literal indent fuel ⟨[], false, false, breaks⟩ first
            some (lines.text chomping indent after, after)

end Vicinity.Yaml
