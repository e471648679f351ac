import Vicinity.Number.Literal

/-!
TOML numbers. One underscore may stand between two digits. Integers have 64 bits and a sign;
floating-point numbers are rounded to double precision.
-/

namespace Vicinity.Toml

open Vicinity.Number

/-- The digits at the front of a text, with single underscores between them, and what follows.
`value?` tells what a digit is. -/
def spanRun (value? : Char → Option Nat) : List Char → List Nat × List Char
  | [] => ([], [])
  | [c] =>
    match value? c with
    | some d => ([d], [])
    | none => ([], [c])
  | c :: c' :: rest =>
    match value? c with
    | none => ([], c :: c' :: rest)
    | some d =>
      if c' = '_' then
        match spanRun value? rest with
        | ([], _) => ([d], c' :: rest)
        | (ds, after) => (d :: ds, after)
      else
        let (ds, after) := spanRun value? (c' :: rest)
        (d :: ds, after)

def run? (value? : Char → Option Nat) (cs : List Char) : Option (List Nat × List Char) :=
  match spanRun value? cs with
  | ([], _) => none
  | found => some found

/-- Whether a minus sign stands first, and what follows the sign if there is one. -/
def spanSign : List Char → Bool × List Char
  | '+' :: rest => (false, rest)
  | '-' :: rest => (true, rest)
  | cs => (false, cs)

/-- The digits of a whole number: a zero alone, or digits that start with another. -/
def whole? (cs : List Char) : Option (List Nat × List Char) :=
  match cs with
  | '0' :: rest => some ([0], rest)
  | cs => run? digit? cs

/-- The digits of a base below or equal to sixteen. -/
def digitOfBase? (base : Nat) (c : Char) : Option Nat :=
  let value := if 'a' ≤ c ∧ c ≤ 'f' then some (c.toNat - 'a'.toNat + 10)
    else if 'A' ≤ c ∧ c ≤ 'F' then some (c.toNat - 'A'.toNat + 10)
    else digit? c
  match value with
  | some d => if d < base then some d else none
  | none => none

/-- An integer that fits in 64 bits with a sign. -/
def fitting? (i : Int) : Option Int := if fitsSigned 64 i then some i else none

def basedInteger? (base : Nat) (cs : List Char) : Option (Int × List Char) := do
  let (ds, rest) ← run? (digitOfBase? base) cs
  let i ← fitting? (ds.foldl (fun n d => base * n + d) 0 : Nat)
  return (i, rest)

/-- An integer, and what follows it. -/
def integer? : List Char → Option (Int × List Char)
  | '0' :: 'x' :: rest => basedInteger? 16 rest
  | '0' :: 'o' :: rest => basedInteger? 8 rest
  | '0' :: 'b' :: rest => basedInteger? 2 rest
  | cs => do
    let (negative, cs) := spanSign cs
    let (ds, rest) ← whole? cs
    let i ← fitting? (if negative then -(ofDigits ds : Nat) else (ofDigits ds : Nat))
    return (i, rest)

def places? : List Char → Option (List Nat × List Char)
  | '.' :: rest => run? digit? rest
  | _ => none

def power? : List Char → Option (Int × List Char)
  | c :: rest =>
    if c = 'e' ∨ c = 'E' then do
      let (negative, rest) := spanSign rest
      let (ds, rest) ← run? digit? rest
      return (if negative then -(ofDigits ds : Nat) else (ofDigits ds : Nat), rest)
    else none
  | [] => none

/-- What a fraction, an exponent or both add to a whole number: the places, the exponent, and what
follows. One of the two has to be there. -/
def fractionAndPower? (cs : List Char) : Option (List Nat × Int × List Char) :=
  match places? cs with
  | some (places, rest) =>
    match power? rest with
    | some (power, rest) => some (places, power, rest)
    | none => some (places, 0, rest)
  | none => (power? cs).map fun (power, rest) => ([], power, rest)

def special? (negative : Bool) : List Char → Option (Float × List Char)
  | 'i' :: 'n' :: 'f' :: rest => some ((Binary.infinite negative).toDouble, rest)
  | 'n' :: 'a' :: 'n' :: rest => some (Binary.nan.toDouble, rest)
  | _ => none

/-- A floating-point number, and what follows it. One that is too large is refused, one that is
too small becomes negative infinity. -/
def float? (cs : List Char) : Option (Float × List Char) :=
  let (negative, cs) := spanSign cs
  match special? negative cs with
  | some found => some found
  | none => do
    let (whole, rest) ← whole? cs
    let (places, power, rest) ← fractionAndPower? rest
    match double.nearestDecimal negative (ofDigits (whole ++ places)) (power - places.length) with
    | .infinite false => none
    | x => some (x.toDouble, rest)

end Vicinity.Toml
