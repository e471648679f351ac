import Vicinity.Number.Binary

/-!
Numbers in decimal notation: the digits of a natural number, the fewest digits that name a
floating-point number, and a fixed count of decimal places.
-/

namespace Vicinity.Number

/-- The number `digits * 10 ^ exponent`. -/
structure Decimal where
  digits : Nat
  exponent : Int
  deriving DecidableEq, Repr

/-- The decimal digits of a natural number, most significant first; zero has one digit. -/
def digitChars (n : Nat) : List Char := Nat.toDigits 10 n

def ofDigits (ds : List Nat) : Nat := ds.foldl (fun n d => 10 * n + d) 0

def integerText (i : Int) : String :=
  String.ofList (if i < 0 then '-' :: digitChars i.natAbs else digitChars i.natAbs)

/-- Numerator and denominator of `num / den` divided by `10 ^ exponent`. -/
def scaleRatio (num den : Nat) (exponent : Int) : Nat × Nat :=
  if 0 ≤ exponent then (num, den * Nat.pow 10 exponent.toNat)
  else (num * Nat.pow 10 (-exponent).toNat, den)

/-- Lowers a guess until `10 ^ guess ≤ num / den`, at most `fuel` times. -/
def lowerLog10 (num den : Nat) : Nat → Int → Int
  | 0, guess => guess
  | fuel + 1, guess =>
    let (n, d) := scaleRatio num den guess
    if d ≤ n then guess else lowerLog10 num den fuel (guess - 1)

/-- The greatest `e` with `10 ^ e ≤ num / den`, for positive numbers. A binary logarithm times
`30103 / 100000` is at most a few steps too large once three is added. -/
def floorLog10 (num den : Nat) : Int :=
  lowerLog10 num den 8 ((floorLog2 num den * 30103) / 100000 + 3)

/-- Removes the zeros at the end of the digits, at most `fuel` of them. -/
def Decimal.strip : Nat → Decimal → Decimal
  | 0, d => d
  | fuel + 1, d =>
    if d.digits ≠ 0 ∧ d.digits % 10 = 0 then strip fuel ⟨d.digits / 10, d.exponent + 1⟩ else d

/-- An interval of positive reals `low / den` to `high / den` around the value `value / den`, its
ends belonging to it if `closed`. -/
structure Interval where
  low : Nat
  value : Nat
  high : Nat
  den : Nat
  closed : Bool

/-- The reals that round to the number `mantissa * 2 ^ exponent` of a format. -/
def Format.roundingInterval (f : Format) (mantissa : Nat) (exponent : Int) : Interval :=
  let below := if mantissa = Nat.pow 2 (f.precision - 1) ∧ f.minExponent < exponent then 1 else 2
  let scale := if 2 ≤ exponent then Nat.pow 2 (exponent - 2).toNat else 1
  let den := if 2 ≤ exponent then 1 else Nat.pow 2 (2 - exponent).toNat
  { low := (4 * mantissa - below) * scale, value := 4 * mantissa * scale,
    high := (4 * mantissa + 2) * scale, den := den, closed := mantissa % 2 = 0 }

/-- Whether `digits * 10 ^ exponent` lies in the interval. -/
def Interval.has (i : Interval) (digits : Nat) (exponent : Int) : Bool :=
  let scale := if 0 ≤ exponent then Nat.pow 10 exponent.toNat else 1
  let unit := if 0 ≤ exponent then 1 else Nat.pow 10 (-exponent).toNat
  let point := digits * scale * i.den
  let low := i.low * unit
  let high := i.high * unit
  (low < point || (i.closed && low == point)) && (point < high || (i.closed && point == high))

/-- The point of the grid of `10 ^ exponent` that lies in the interval and is nearest to its
value, if there is one. -/
def Interval.pick (i : Interval) (exponent : Int) : Option Nat :=
  let (n, d) := scaleRatio i.value i.den exponent
  let down := n / d
  match i.has down exponent, i.has (down + 1) exponent with
  | true, false => some down
  | false, true => some (down + 1)
  | true, true => some (roundHalfEven n d)
  | false, false => none

/-- Tries the grids that give the value `count`, `count + 1`, … digits. -/
def Interval.search (i : Interval) (lead : Int) : Nat → Nat → Decimal
  | 0, count =>
    let exponent := lead + 1 - count
    let (n, d) := scaleRatio i.value i.den exponent
    ⟨roundHalfEven n d, exponent⟩
  | fuel + 1, count =>
    let exponent := lead + 1 - count
    match i.pick exponent with
    | some digits => ⟨digits, exponent⟩
    | none => i.search lead fuel (count + 1)

/-- The decimal number with the fewest digits among those that round to `mantissa * 2 ^ exponent`,
and the nearest to it among those. -/
def Format.shortest (f : Format) (mantissa : Nat) (exponent : Int) : Decimal :=
  if mantissa = 0 then ⟨0, 0⟩
  else
    let i := f.roundingInterval mantissa exponent
    (i.search (floorLog10 i.value i.den) 17 1).strip 20

/-- How a floating-point number is written: the powers of ten between which it stands without an
exponent, and what follows a number that is whole. -/
structure Layout where
  plainFrom : Int
  plainBelow : Int
  wholeEnding : List Char

/-- The digits of a decimal number with the point in its place. -/
def Decimal.plain (d : Decimal) (wholeEnding : List Char) : List Char :=
  let ds := digitChars d.digits
  if 0 ≤ d.exponent then ds ++ List.replicate d.exponent.toNat '0' ++ wholeEnding
  else
    let places := (-d.exponent).toNat
    if places < ds.length then
      ds.take (ds.length - places) ++ '.' :: ds.drop (ds.length - places)
    else '0' :: '.' :: (List.replicate (places - ds.length) '0' ++ ds)

/-- One digit before the point, the others after it, and a signed exponent. -/
def Decimal.scientific (d : Decimal) : List Char :=
  let ds := digitChars d.digits
  let power := d.exponent + (ds.length - 1 : Nat)
  let fraction := match ds.drop 1 with
    | [] => []
    | rest => '.' :: rest
  ds.take 1 ++ fraction ++ 'e' :: (if power < 0 then '-' else '+') :: digitChars power.natAbs

def Decimal.render (d : Decimal) (style : Layout) : List Char :=
  let power := d.exponent + ((digitChars d.digits).length - 1 : Nat)
  if d.digits = 0 then '0' :: style.wholeEnding
  else if style.plainFrom ≤ power ∧ power < style.plainBelow then d.plain style.wholeEnding
  else d.scientific

/-- Numerator and denominator of `mantissa * 2 ^ exponent`. -/
def ratioOf (mantissa : Nat) (exponent : Int) : Nat × Nat :=
  if 0 ≤ exponent then (mantissa * Nat.pow 2 exponent.toNat, 1)
  else (mantissa, Nat.pow 2 (-exponent).toNat)

/-- A number with exactly `places` decimal places; the exact value is rounded, and a tie goes to
the even neighbour. -/
def fixedPlaces (places : Nat) (x : Single) : String :=
  match ofSingle x with
  | .nan => "NaN"
  | .infinite negative => if negative then "-inf" else "inf"
  | .finite negative mantissa exponent =>
    let (n, d) := ratioOf mantissa exponent
    let scaled := roundHalfEven (n * Nat.pow 10 places) d
    let ds := digitChars scaled
    let ds := List.replicate (places + 1 - ds.length) '0' ++ ds
    let whole := ds.take (ds.length - places)
    let rest := ds.drop (ds.length - places)
    String.ofList ((if negative then ['-'] else []) ++ whole ++
      (if places = 0 then [] else '.' :: rest))

/-- The text of a finite double-precision number with the fewest digits that name it and no
exponent; a whole number has no point. -/
def plainText (x : Float) : String :=
  match ofDouble x with
  | .nan => "NaN"
  | .infinite negative => if negative then "-inf" else "inf"
  | .finite negative mantissa exponent =>
    let d := double.shortest mantissa exponent
    String.ofList ((if negative then ['-'] else []) ++ d.plain [])

end Vicinity.Number
