/-!
Single-precision numbers by their bits, so that the zeros and every NaN are values of their own.
Arithmetic rounds each result to the nearest number. A NaN among the operands is the result, made
quiet; an operation that has no result gives the NaN with all of its upper bits set.

Two total orders are given by natural numbers that every value maps to. Ranking treats the two zeros
as one and puts every NaN last; the strict order tells all values apart.
-/

namespace Vicinity

/-- A single-precision number. -/
structure Single where
  bits : UInt32
  deriving DecidableEq, Repr, Inhabited

namespace Single

def isNaN (x : Single) : Bool := x.bits.toNat % 0x80000000 > 0x7F800000

def isZero (x : Single) : Bool := x.bits.toNat % 0x80000000 == 0

def infinity : Single := ⟨0x7F800000⟩

def invalid : Single := ⟨0xFFC00000⟩

/-- A NaN that has passed through an operation. -/
def quiet (x : Single) : Single := ⟨x.bits ||| 0x00400000⟩

/-- The number for arithmetic; all NaN are one there. -/
def toFloat32 (x : Single) : Float32 := Float32.ofBits x.bits

def ofFloat32 (x : Float32) : Single := if x.isNaN then invalid else ⟨x.toBits⟩

/-- An operation on two numbers; a NaN gives itself, the first one if there are two. -/
def combine (operation : Float32 → Float32 → Float32) (a b : Single) : Single :=
  if a.isNaN then a.quiet
  else if b.isNaN then b.quiet
  else ofFloat32 (operation a.toFloat32 b.toFloat32)

instance : Add Single := ⟨combine (· + ·)⟩
instance : Sub Single := ⟨combine (· - ·)⟩
instance : Mul Single := ⟨combine (· * ·)⟩
instance : Div Single := ⟨combine (· / ·)⟩

/-- The number with the other sign, also for a NaN. -/
instance : Neg Single := ⟨fun x => ⟨x.bits ^^^ 0x80000000⟩⟩

def abs (x : Single) : Single := ⟨x.bits &&& 0x7FFFFFFF⟩

def sqrt (x : Single) : Single := if x.isNaN then x.quiet else ofFloat32 x.toFloat32.sqrt

instance : OfNat Single 0 := ⟨⟨0⟩⟩
instance : OfNat Single 1 := ⟨⟨0x3F800000⟩⟩

/-- Position in the order that ranks distances: numbers ascending, the two zeros equal, every NaN
equal and after all else. -/
def rankKey (x : Single) : Nat :=
  let bits := x.bits.toNat
  if x.isNaN then Nat.pow 2 32
  else if bits < 0x80000000 then 0x80000000 + bits
  else 0x80000000 - (bits - 0x80000000)

/-- Position in the order that tells all values apart: numbers ascending, the negative zero before
the positive one, a NaN before or after all numbers as its sign tells. -/
def strictKey (x : Single) : Nat :=
  let bits := x.bits.toNat
  if bits < 0x80000000 then 0x80000000 + bits else 0x7FFFFFFF - (bits - 0x80000000)

/-- Whether one number is less than another. No NaN is less or greater than anything. -/
def isLess (a b : Single) : Bool := !a.isNaN && !b.isNaN && a.rankKey < b.rankKey

def isAtMost (a b : Single) : Bool := !a.isNaN && !b.isNaN && a.rankKey ≤ b.rankKey

instance : LT Single := ⟨fun a b => a.isLess b = true⟩
instance : LE Single := ⟨fun a b => a.isAtMost b = true⟩
instance (a b : Single) : Decidable (a < b) := inferInstanceAs (Decidable (a.isLess b = true))
instance (a b : Single) : Decidable (a ≤ b) := inferInstanceAs (Decidable (a.isAtMost b = true))

/-- The greater of two numbers; a NaN gives way to the other one. -/
def max (a b : Single) : Single :=
  if b.isNaN then a else if a.isNaN then b else if a < b then b else a

/-- A number moved into the interval from `low` to `high`; a NaN stays. -/
def clamp (low high x : Single) : Single :=
  if x < low then low else if high < x then high else x

/-- The sum of numbers, from the first to the last. -/
def sum (start : Single) (terms : List Single) : Single := terms.foldl (· + ·) start

end Single

end Vicinity
