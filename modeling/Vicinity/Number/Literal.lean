import Vicinity.Number.Decimal

/-!
Numbers as people type them: unsigned words, signed integers, and decimal fractions rounded to the
nearest number of a format. Only the ten ASCII digits count as digits, and no blank is skipped.
-/

namespace Vicinity.Number

def maxWord : Nat := Nat.pow 2 64 - 1

def digit? (c : Char) : Option Nat :=
  if '0' ≤ c ∧ c ≤ '9' then some (c.toNat - '0'.toNat) else none

/-- The values of a text of ASCII digits; `none` if another character is among them. -/
def digits? (cs : List Char) : Option (List Nat) := cs.mapM digit?

/-- A non-empty run of digits, read as a number. -/
def natural? (cs : List Char) : Option Nat :=
  if cs.isEmpty then none else (digits? cs).map ofDigits

/-- An unsigned word: digits, a plus sign before them if wanted, at most 64 bits. -/
def word? (s : String) : Option Nat :=
  let cs := match s.toList with
    | '+' :: rest => rest
    | cs => cs
  match natural? cs with
  | some n => if n ≤ maxWord then some n else none
  | none => none

/-- Whether an integer fits in a signed word of `bits` bits. -/
def fitsSigned (bits : Nat) (i : Int) : Bool :=
  -(Nat.pow 2 (bits - 1) : Int) ≤ i && i < (Nat.pow 2 (bits - 1) : Int)

/-- A signed integer of at most `bits` bits, with a sign before its digits if wanted. -/
def signed? (bits : Nat) (s : String) : Option Int :=
  let value := match s.toList with
    | '+' :: rest => (natural? rest).map Int.ofNat
    | '-' :: rest => (natural? rest).map fun n => -Int.ofNat n
    | cs => (natural? cs).map Int.ofNat
  match value with
  | some i => if fitsSigned bits i then some i else none
  | none => none

/-- The datum of the format nearest to `digits * 10 ^ exponent`. Powers far outside every format
are answered without being computed. -/
def Format.nearestDecimal (f : Format) (negative : Bool) (digits : Nat) (exponent : Int) :
    Binary :=
  let lead := exponent + (digitChars digits).length
  if digits = 0 ∨ lead < -400 then .finite negative 0 f.minExponent
  else if 400 < lead then .infinite negative
  else
    let (n, d) := scaleRatio digits 1 (-exponent)
    f.nearest negative n d

/-- The digits at the front of a text, and what follows them. -/
def spanDigits : List Char → List Nat × List Char
  | [] => ([], [])
  | c :: cs =>
    match digit? c with
    | some d => let (ds, rest) := spanDigits cs; (d :: ds, rest)
    | none => ([], c :: cs)

/-- The exponent at the end of a decimal fraction: nothing, or `e` with a signed number. -/
def exponent? : List Char → Option Int
  | [] => some 0
  | c :: cs =>
    if c = 'e' ∨ c = 'E' then
      match cs with
      | '+' :: rest => (natural? rest).map Int.ofNat
      | '-' :: rest => (natural? rest).map fun n => -Int.ofNat n
      | rest => (natural? rest).map Int.ofNat
    else none

/-- An unsigned decimal fraction such as `1.5e3`: digits on one side of the point are enough. -/
def fraction? (f : Format) (negative : Bool) (cs : List Char) : Option Binary :=
  let (whole, rest) := spanDigits cs
  let (places, rest) := match rest with
    | '.' :: tail => spanDigits tail
    | _ => ([], rest)
  if whole.isEmpty && places.isEmpty then none
  else (exponent? rest).map fun e =>
    f.nearestDecimal negative (ofDigits (whole ++ places)) (e - places.length)

/-- A decimal number of the format: a sign if wanted, then a fraction, `inf`, `infinity` or `nan`
in any case. -/
def decimal? (f : Format) (s : String) : Option Binary :=
  let (negative, cs) := match s.toList with
    | '+' :: rest => (false, rest)
    | '-' :: rest => (true, rest)
    | cs => (false, cs)
  let word := cs.map Char.toLower
  if word = ['i', 'n', 'f'] ∨ word = ['i', 'n', 'f', 'i', 'n', 'i', 't', 'y'] then
    some (.infinite negative)
  else if word = ['n', 'a', 'n'] then some .nan
  else fraction? f negative cs

def single? (s : String) : Option Single := (decimal? single s).map Binary.toSingle

def double? (s : String) : Option Float := (decimal? double s).map Binary.toDouble

end Vicinity.Number
