import Vicinity.Json.Reader
import Vicinity.Number.Decimal

/-!
TOML strings, read and written. A basic string stands in double quotes and knows escapes, a
literal string stands in single quotes and has none; with three quotes on each side both may run
over several lines.
-/

namespace Vicinity.Toml

open Json (hexValue?)

/-- Whether a character may stand as it is in a comment, or in a string on one line, quotes and
backslashes apart: a tab, or no control character of ASCII. -/
def isTextChar (c : Char) : Bool := c = '\t' || (' ' ≤ c && c ≠ '\x7f')

def isSpace (c : Char) : Bool := c = ' ' || c = '\t'

def hexNumber? (cs : List Char) : Option Nat :=
  (cs.mapM hexValue?).map (List.foldl (fun n d => 16 * n + d) 0)

/-- The character with the number that hexadecimal digits give; half of a surrogate pair is no
character. -/
def numbered? (cs : List Char) : Option Char :=
  (hexNumber? cs).bind fun n => if n.isValidChar then some (Char.ofNat n) else none

/-- The character that a letter after a backslash stands for. -/
def shortEscape? (c : Char) : Option Char :=
  if c = '"' ∨ c = '\\' then some c
  else if c = 'b' then some '\x08'
  else if c = 't' then some '\t'
  else if c = 'n' then some '\n'
  else if c = 'f' then some '\x0c'
  else if c = 'r' then some '\r'
  else none

/-- The rest of a basic string after what was read of it, and what follows its closing quote. -/
def readBasic (read : List Char) : List Char → Option (String × List Char)
  | [] => none
  | '\\' :: 'u' :: a :: b :: c :: d :: rest =>
    (numbered? [a, b, c, d]).bind fun x => readBasic (x :: read) rest
  | '\\' :: 'U' :: a :: b :: c :: d :: e :: f :: g :: h :: rest =>
    (numbered? [a, b, c, d, e, f, g, h]).bind fun x => readBasic (x :: read) rest
  | '\\' :: c :: rest => (shortEscape? c).bind fun x => readBasic (x :: read) rest
  | c :: rest =>
    if c = '"' then some (String.ofList read.reverse, rest)
    else if isTextChar c ∧ c ≠ '\\' then readBasic (c :: read) rest
    else none

/-- A literal string after its opening quote, and what follows its closing quote. -/
def readLiteral (cs : List Char) : Option (String × List Char) :=
  let inside := cs.takeWhile fun c => isTextChar c && c ≠ '\''
  match cs.drop inside.length with
  | '\'' :: rest => some (String.ofList inside, rest)
  | _ => none

def endsLine (cs : List Char) : Bool :=
  match cs.dropWhile isSpace with
  | '\n' :: _ => true
  | '\r' :: '\n' :: _ => true
  | _ => false

/-- The end of a string over several lines at a quote: up to two more quotes belong to the string
before the three that close it. `none` if fewer than three quotes stand here. -/
def closing? (quote : Char) (cs : List Char) : Option (List Char × List Char) :=
  let run := (cs.takeWhile (· = quote)).length
  if run < 3 then none
  else
    let extra := min (run - 3) 2
    some (List.replicate extra quote, cs.drop (extra + 3))

/-- The rest of a basic string over several lines. While `skipping`, which a backslash at the end
of a line starts, blanks and line ends are dropped. Every line end is read as one character. -/
def readLongBasic (skipping : Bool) (read : List Char) : List Char → Option (String × List Char)
  | [] => none
  | '\r' :: '\n' :: rest =>
    if skipping then readLongBasic true read rest else readLongBasic false ('\n' :: read) rest
  | '\\' :: 'u' :: a :: b :: c :: d :: rest =>
    (numbered? [a, b, c, d]).bind fun x => readLongBasic false (x :: read) rest
  | '\\' :: 'U' :: a :: b :: c :: d :: e :: f :: g :: h :: rest =>
    (numbered? [a, b, c, d, e, f, g, h]).bind fun x => readLongBasic false (x :: read) rest
  | '\\' :: c :: rest =>
    if endsLine (c :: rest) then readLongBasic true read (c :: rest)
    else (shortEscape? c).bind fun x => readLongBasic false (x :: read) rest
  | c :: rest =>
    if skipping ∧ (isSpace c ∨ c = '\n') then readLongBasic true read rest
    else if c = '"' then
      match closing? '"' (c :: rest) with
      | some (last, after) => some (String.ofList (read.reverse ++ last), after)
      | none => readLongBasic false (c :: read) rest
    else if (isTextChar c ∧ c ≠ '\\') ∨ c = '\n' then readLongBasic false (c :: read) rest
    else none

/-- The rest of a literal string over several lines. -/
def readLongLiteral (read : List Char) : List Char → Option (String × List Char)
  | [] => none
  | '\r' :: '\n' :: rest => readLongLiteral ('\n' :: read) rest
  | c :: rest =>
    if c = '\'' then
      match closing? '\'' (c :: rest) with
      | some (last, after) => some (String.ofList (read.reverse ++ last), after)
      | none => readLongLiteral (c :: read) rest
    else if isTextChar c ∨ c = '\n' then readLongLiteral (c :: read) rest
    else none

def dropLineEnd : List Char → List Char
  | '\n' :: rest => rest
  | '\r' :: '\n' :: rest => rest
  | cs => cs

/-- A string of any kind, and what follows it. -/
def readString : List Char → Option (String × List Char)
  | '"' :: '"' :: '"' :: rest => readLongBasic false [] (dropLineEnd rest)
  | '\'' :: '\'' :: '\'' :: rest => readLongLiteral [] (dropLineEnd rest)
  | '"' :: rest => readBasic [] rest
  | '\'' :: rest => readLiteral rest
  | _ => none

/-! Writing -/

/-- What decides how a string is written. -/
structure Traits where
  hasControl : Bool
  hasLineEnd : Bool
  hasBackslash : Bool
  singleRun : Nat
  doubleRun : Nat

/-- The length of the longest run of a character, `run` of which stand just before. -/
def longestRun (c : Char) (run : Nat) : List Char → Nat
  | [] => run
  | d :: rest => if d = c then longestRun c (run + 1) rest else max run (longestRun c 0 rest)

/-- The traits of a string. Tabs and line ends are no control characters here. -/
def Traits.of (cs : List Char) : Traits :=
  { hasControl := cs.any fun c => c ≠ '\t' && c ≠ '\n' && (c < ' ' || c = '\x7f'),
    hasLineEnd := cs.contains '\n', hasBackslash := cs.contains '\\',
    singleRun := longestRun '\'' 0 cs, doubleRun := longestRun '"' 0 cs }

/-- One hexadecimal digit, upper case. -/
def upperHexDigit (n : Nat) : Char := (Nat.digitChar (n % 16)).toUpper

/-- How a character is written in a basic string; line ends and quotes stand as they are where the
string runs over several lines. -/
def escapeChar (long : Bool) (c : Char) : List Char :=
  if c = '\x08' then ['\\', 'b']
  else if c = '\t' then ['\\', 't']
  else if c = '\n' then if long then [c] else ['\\', 'n']
  else if c = '\x0c' then ['\\', 'f']
  else if c = '\r' then ['\\', 'r']
  else if c = '\\' then ['\\', '\\']
  else if c = '"' then if long then [c] else ['\\', '"']
  else if c < ' ' ∨ c = '\x7f' then
    ['\\', 'u', '0', '0', upperHexDigit (c.toNat / 16), upperHexDigit c.toNat]
  else [c]

/-- The body of a basic string over several lines after `run` quotes: every third quote in a row is
escaped, so that no three of them close the string. -/
def longBody (run : Nat) : List Char → List Char
  | [] => []
  | c :: rest =>
    if c ≠ '"' then escapeChar true c ++ longBody 0 rest
    else if run < 2 then c :: longBody (run + 1) rest
    else '\\' :: c :: longBody 0 rest

/-- Three quotes around a text, which starts on a line of its own if it has a line end. -/
def longText (quote : List Char) (lineEnd : Bool) (body : List Char) : List Char :=
  quote ++ (if lineEnd then ['\n'] else []) ++ body ++ quote

/-- A string as it is written: basic where nothing but tabs needs an escape, else literal, else
over several lines, and basic with escapes where no other form can hold it. -/
def stringText (s : String) : List Char :=
  let cs := s.toList
  let t := Traits.of cs
  let basic := '"' :: cs.flatMap (escapeChar false) ++ ['"']
  let longBasic := longText ['"', '"', '"'] t.hasLineEnd (longBody 0 cs)
  let plain := ¬ t.hasControl ∧ ¬ t.hasLineEnd
  if plain ∧ ¬ t.hasBackslash ∧ t.doubleRun = 0 then basic
  else if plain ∧ t.singleRun = 0 then '\'' :: cs ++ ['\'']
  else if ¬ t.hasControl ∧ ¬ t.hasBackslash ∧ t.doubleRun ≤ 2 then longBasic
  else if ¬ t.hasControl ∧ t.singleRun ≤ 2 then longText ['\'', '\'', '\''] t.hasLineEnd cs
  else if t.hasLineEnd then longBasic else basic

end Vicinity.Toml
