import Vicinity.Number.Literal

/-!
Numbers of a JSON text: the parts as written, and the value they stand for. An integer that fits
in a 64-bit word stays an integer; everything else becomes a double. The digits of a double fill
one word, what no longer fits is dropped, and the word is then scaled by a power of ten in double
precision.
-/

namespace Vicinity.Json

open Vicinity.Number

/-- The parts of a number as written. `power` holds the sign and the digits of the exponent. -/
structure NumberText where
  negative : Bool
  whole : List Nat
  fraction : Option (List Nat)
  power : Option (Bool × List Nat)
  deriving DecidableEq, Repr

/-- The value of a number. -/
inductive NumberValue where
  | int (i : Int)
  | float (x : Float)

/-- Takes digits into a word until the next one no longer fits. Gives the word and the digits left
over. -/
def fillWord : List Nat → Nat → Nat × List Nat
  | [], word => (word, [])
  | d :: ds, word =>
    if 10 * word + d ≤ maxWord then fillWord ds (10 * word + d) else (word, d :: ds)

/-- `10 ^ n` in double precision. -/
def powerOfTen (n : Nat) : Float := (double.nearestDecimal false 1 n).toDouble

/-- Scales by a power of ten with one rounding, or by steps of `10 ^ 308` where the power is
smaller than any double. `none` if the result is beyond every double. -/
def scaleBy : Nat → Float → Int → Option Float
  | 0, _, _ => some 0
  | fuel + 1, x, power =>
    if power.natAbs ≤ 308 then
      if 0 ≤ power then
        let y := x * powerOfTen power.natAbs
        if y.isInf then none else some y
      else some (x / powerOfTen power.natAbs)
    else if x == 0 then some x
    else if 0 ≤ power then none
    else scaleBy fuel (x / powerOfTen 308) (power + 308)

/-- The greatest exponent that can be written. -/
def maxPower : Nat := Nat.pow 2 31 - 1

/-- The value of a number that has a fraction, an exponent, or more digits than a word holds. -/
def NumberText.double? (n : NumberText) : Option Float :=
  let (word, dropped) := fillWord n.whole 0
  let places := n.fraction.getD []
  let (word, unused) := fillWord places word
  let point : Int := dropped.length - (places.length - unused.length : Nat)
  let magnitude :=
    match n.power with
    | none => scaleBy 8 word.toUInt64.toFloat point
    | some (below, ds) =>
      let power := ofDigits ds
      if maxPower < power then
        if word ≠ 0 ∧ ¬ below then none else some 0
      else scaleBy 8 word.toUInt64.toFloat (if below then point - power else point + power)
  magnitude.map fun x => if n.negative then -x else x

/-- The value of a number; `none` if it is beyond every double. A negative zero is a double. -/
def NumberText.value? (n : NumberText) : Option NumberValue :=
  let whole := ofDigits n.whole
  if n.fraction.isSome ∨ n.power.isSome ∨ maxWord < whole then n.double?.map .float
  else if ¬ n.negative then some (.int whole)
  else if whole = 0 then some (.float (-0.0))
  else if whole ≤ Nat.pow 2 63 then some (.int (-whole))
  else some (.float (-whole.toUInt64.toFloat))

end Vicinity.Json
