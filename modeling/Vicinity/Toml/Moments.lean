import Vicinity.Number.Literal
import Vicinity.Text.Calendar

/-!
TOML dates and times: a date, a time of day, or both, and then perhaps an offset from UTC. They
are read only to be written out again in one form.
-/

namespace Vicinity.Toml

open Vicinity.Number
open Vicinity.Text (paddedDigits)

/-- A number of exactly `count` digits. -/
def fixedDigits? : Nat → List Char → Option (Nat × List Char)
  | 0, cs => some (0, cs)
  | _, [] => none
  | count + 1, c :: rest => do
    let d ← digit? c
    let (n, rest) ← fixedDigits? count rest
    return (d * Nat.pow 10 count + n, rest)

/-- A number of two digits that does not pass a limit. -/
def twoDigits? (limit : Nat) (cs : List Char) : Option (Nat × List Char) := do
  let (n, rest) ← fixedDigits? 2 cs
  if n ≤ limit then some (n, rest) else none

def after? (mark : Char) : List Char → Option (List Char)
  | c :: rest => if c = mark then some rest else none
  | [] => none

def daysOfMonth (year month : Nat) : Nat :=
  if month = 2 then
    if year % 4 = 0 ∧ (year % 100 ≠ 0 ∨ year % 400 = 0) then 29 else 28
  else if month = 4 ∨ month = 6 ∨ month = 9 ∨ month = 11 then 30
  else 31

/-- A date, and what follows it. -/
def date? (cs : List Char) : Option (String × List Char) := do
  let (year, cs) ← fixedDigits? 4 cs
  let (month, cs) ← twoDigits? 12 (← after? '-' cs)
  let (day, cs) ← twoDigits? (daysOfMonth year month) (← after? '-' cs)
  if month = 0 ∨ day = 0 then none
  else some (paddedDigits 4 year ++ "-" ++ paddedDigits 2 month ++ "-" ++ paddedDigits 2 day, cs)

/-- The fraction of a second: at most nine digits count, and zeros at the end do not. -/
def secondFraction (cs : List Char) : String :=
  let digits := ((cs.take 9).reverse.dropWhile (· = '0')).reverse
  if digits.isEmpty then "" else String.ofList ('.' :: digits)

/-- The fraction after a point, if one stands there. -/
def fraction? : List Char → String × List Char
  | '.' :: rest =>
    let digits := rest.takeWhile Char.isDigit
    if digits.isEmpty then ("", '.' :: rest) else (secondFraction digits, rest.drop digits.length)
  | cs => ("", cs)

/-- A time of day, and what follows it. A minute may have a leap second. -/
def time? (cs : List Char) : Option (String × List Char) := do
  let (hour, cs) ← twoDigits? 23 cs
  let (minute, cs) ← twoDigits? 59 (← after? ':' cs)
  let (second, cs) ← twoDigits? 60 (← after? ':' cs)
  let (fraction, cs) := fraction? cs
  return (paddedDigits 2 hour ++ ":" ++ paddedDigits 2 minute ++ ":" ++ paddedDigits 2 second ++
    fraction, cs)

/-- An offset from UTC, and what follows it. Without one the text is empty. -/
def offset? : List Char → Option (String × List Char)
  | [] => some ("", [])
  | c :: rest =>
    if c = 'Z' ∨ c = 'z' then some ("Z", rest)
    else if c = '+' ∨ c = '-' then do
      let (hour, rest) ← twoDigits? 23 rest
      let (minute, rest) ← twoDigits? 59 (← after? ':' rest)
      let sign := if c = '-' ∧ 0 < hour + minute then "-" else "+"
      return (sign ++ paddedDigits 2 hour ++ ":" ++ paddedDigits 2 minute, rest)
    else some ("", c :: rest)

/-- The time of day and the offset after a date. -/
def timeAfterDate? : List Char → Option (String × List Char)
  | [] => none
  | c :: rest =>
    if c = 'T' ∨ c = 't' ∨ c = ' ' then do
      let (time, rest) ← time? rest
      let (offset, rest) ← offset? rest
      return ("T" ++ time ++ offset, rest)
    else none

/-- A date, a time or both, and what follows. -/
def moment? (cs : List Char) : Option (String × List Char) :=
  match date? cs with
  | none => time? cs
  | some (date, rest) =>
    match timeAfterDate? rest with
    | some (time, rest) => some (date ++ time, rest)
    | none => some (date, rest)

end Vicinity.Toml
