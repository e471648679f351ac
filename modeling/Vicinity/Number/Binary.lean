import Vicinity.Number.Single

/-!
Binary floating-point data read as exact numbers, and exact numbers rounded to the nearest datum
of a format. Everything is arithmetic on natural numbers, so no step of it is left to the machine.
-/

namespace Vicinity.Number

/-- A binary interchange format: the bits of the significand, with the implicit one, and the bits
of the exponent field. -/
structure Format where
  precision : Nat
  exponentBits : Nat
  deriving DecidableEq, Repr

def single : Format := ⟨24, 8⟩

def double : Format := ⟨53, 11⟩

namespace Format

/-- The exponent of the unit in the last place of the smallest numbers. -/
def minExponent (f : Format) : Int :=
  3 - (Nat.pow 2 (f.exponentBits - 1) : Int) - f.precision

/-- The exponent of the unit in the last place of the largest numbers. -/
def maxExponent (f : Format) : Int :=
  (Nat.pow 2 (f.exponentBits - 1) : Int) - f.precision

end Format

/-- What a floating-point datum stands for: not a number, a signed infinity, or the number
`mantissa * 2 ^ exponent` with a sign of its own. -/
inductive Binary where
  | nan
  | infinite (negative : Bool)
  | finite (negative : Bool) (mantissa : Nat) (exponent : Int)
  deriving DecidableEq, Repr

/-- The datum that a bit pattern of the format holds. -/
def Format.decode (f : Format) (bits : Nat) : Binary :=
  let fractionSize := Nat.pow 2 (f.precision - 1)
  let exponentSize := Nat.pow 2 f.exponentBits
  let fraction := bits % fractionSize
  let exponent := bits / fractionSize % exponentSize
  let negative := bits / fractionSize / exponentSize % 2 == 1
  if exponent = exponentSize - 1 then
    if fraction = 0 then .infinite negative else .nan
  else if exponent = 0 then .finite negative fraction f.minExponent
  else .finite negative (fraction + fractionSize) (f.minExponent + (exponent - 1 : Nat))

/-- The bit pattern of a datum of the format. A number has to be given with the least exponent
that its mantissa allows, as `Format.nearest` and `Format.decode` give it. -/
def Format.encode (f : Format) (x : Binary) : Nat :=
  let fractionSize := Nat.pow 2 (f.precision - 1)
  let exponentSize := Nat.pow 2 f.exponentBits
  let signed (negative : Bool) (magnitude : Nat) : Nat :=
    (if negative then exponentSize * fractionSize else 0) + magnitude
  match x with
  | .nan => (exponentSize - 1) * fractionSize + fractionSize / 2
  | .infinite negative => signed negative ((exponentSize - 1) * fractionSize)
  | .finite negative mantissa exponent =>
    if mantissa < fractionSize then signed negative mantissa
    else signed negative
      ((exponent - f.minExponent + 1).toNat * fractionSize + (mantissa - fractionSize))

/-- A quotient rounded to the nearest natural number; a tie goes to the even neighbour. -/
def roundHalfEven (num den : Nat) : Nat :=
  let quotient := num / den
  let rest := num % den
  if 2 * rest < den then quotient
  else if den < 2 * rest then quotient + 1
  else quotient + quotient % 2

/-- Numerator and denominator of `num / den` divided by `2 ^ exponent`. -/
def shiftRatio (num den : Nat) (exponent : Int) : Nat × Nat :=
  if 0 ≤ exponent then (num, den * Nat.pow 2 exponent.toNat)
  else (num * Nat.pow 2 (-exponent).toNat, den)

/-- The greatest `e` with `2 ^ e ≤ num / den`, for positive numbers. -/
def floorLog2 (num den : Nat) : Int :=
  let guess : Int := (num.log2 : Int) - den.log2
  let (n, d) := shiftRatio num den guess
  if d ≤ n then guess else guess - 1

/-- The datum of the format nearest to `num / den`; a tie goes to the even mantissa, and what
rounds past the largest number becomes infinite. -/
def Format.nearest (f : Format) (negative : Bool) (num den : Nat) : Binary :=
  if num = 0 then .finite negative 0 f.minExponent
  else
    let exponent := max f.minExponent (floorLog2 num den - (f.precision - 1 : Nat))
    let (n, d) := shiftRatio num den exponent
    let mantissa := roundHalfEven n d
    let (mantissa, exponent) :=
      if mantissa = Nat.pow 2 f.precision then (Nat.pow 2 (f.precision - 1), exponent + 1)
      else (mantissa, exponent)
    if f.maxExponent < exponent then .infinite negative
    else .finite negative mantissa exponent

/-- The datum of the format nearest to another datum. -/
def Format.convert (f : Format) : Binary → Binary
  | .nan => .nan
  | .infinite negative => .infinite negative
  | .finite negative mantissa exponent =>
    if 0 ≤ exponent then f.nearest negative (mantissa * Nat.pow 2 exponent.toNat) 1
    else f.nearest negative mantissa (Nat.pow 2 (-exponent).toNat)

/-- What a single-precision number stands for. -/
def ofSingle (x : Single) : Binary := single.decode x.bits.toNat

/-- What a double-precision number stands for. -/
def ofDouble (x : Float) : Binary := double.decode x.toBits.toNat

/-- The single-precision number that a datum of the format is. -/
def Binary.toSingle (x : Binary) : Single := ⟨UInt32.ofNat (single.encode x)⟩

/-- The double-precision number that a datum of the format is. -/
def Binary.toDouble (x : Binary) : Float := Float.ofBits (UInt64.ofNat (double.encode x))

/-- A double-precision number rounded to single precision. -/
def narrow (x : Float) : Single := (single.convert (ofDouble x)).toSingle

/-- A single-precision number in double precision. -/
def widen (x : Single) : Float := (double.convert (ofSingle x)).toDouble

def singleOfNat (n : Nat) : Single := (single.nearest false n 1).toSingle

def singleOfInt (i : Int) : Single := (single.nearest (decide (i < 0)) i.natAbs 1).toSingle

end Vicinity.Number
