import Vicinity.Number.Decimal

/-!
Dates and times of day in the Gregorian calendar, carried on without end in both directions. Time
is counted in milliseconds since the start of 1970, and no day has a leap second.
-/

namespace Vicinity.Text

open Number (digitChars integerText)

/-- A day of the calendar. Year 0 comes before year 1. -/
structure Date where
  year : Int
  month : Nat
  day : Nat
  deriving DecidableEq, Repr

/-- The days of four hundred years, after which the calendar repeats. -/
def daysPerCycle : Nat := 146097

/-- The days from the first of March of year 0 to the first of January of 1970. -/
def daysBeforeEpoch : Nat := 719468

/-- The date that is the given number of days after the first of January of 1970. Years are
counted from the first of March, so that a leap day is the last of its year. -/
def Date.ofDays (days : Int) : Date :=
  let shifted := days + daysBeforeEpoch
  let cycle := shifted / daysPerCycle
  let dayOfCycle := (shifted % daysPerCycle).toNat
  let yearOfCycle :=
    (dayOfCycle - dayOfCycle / 1460 + dayOfCycle / 36524 - dayOfCycle / 146096) / 365
  let dayOfYear := dayOfCycle - (365 * yearOfCycle + yearOfCycle / 4 - yearOfCycle / 100)
  let monthFromMarch := (5 * dayOfYear + 2) / 153
  let day := dayOfYear - (153 * monthFromMarch + 2) / 5 + 1
  let month := if monthFromMarch < 10 then monthFromMarch + 3 else monthFromMarch - 9
  let year := cycle * 400 + yearOfCycle
  ⟨if month ≤ 2 then year + 1 else year, month, day⟩

/-- Puts copies of a character before a text until it has a width. -/
def padLeft (width : Nat) (c : Char) (text : List Char) : List Char :=
  List.replicate (width - text.length) c ++ text

/-- A natural number with at least the given count of digits. -/
def paddedDigits (width n : Nat) : String := String.ofList (padLeft width '0' (digitChars n))

/-- A year with at least four digits. One that has more, or is before year 0, has a sign. -/
def yearText (year : Int) : String :=
  let digits := paddedDigits 4 year.natAbs
  if year < 0 then "-" ++ digits
  else if 9999 < year then "+" ++ digits
  else digits

/-- The years of which a time is written as a date. -/
def datedYears : Int × Int := (-262143, 262142)

/-- A time as date and time of day in UTC, with milliseconds where there are any. A time in a
year out of reach is written as the count that it is. -/
def timestamp (milliseconds : Int) : String :=
  let days := milliseconds / 86400000
  let rest := (milliseconds % 86400000).toNat
  let date := Date.ofDays days
  if date.year < datedYears.1 ∨ datedYears.2 < date.year then integerText milliseconds
  else
    let seconds := rest / 1000
    let fraction := if rest % 1000 = 0 then "" else "." ++ paddedDigits 3 (rest % 1000)
    yearText date.year ++ "-" ++ paddedDigits 2 date.month ++ "-" ++ paddedDigits 2 date.day ++
      "T" ++ paddedDigits 2 (seconds / 3600) ++ ":" ++ paddedDigits 2 (seconds / 60 % 60) ++ ":" ++
      paddedDigits 2 (seconds % 60) ++ fraction ++ "+00:00"

end Vicinity.Text
