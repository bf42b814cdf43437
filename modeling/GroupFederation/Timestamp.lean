/-!
# Instants

An instant is a count of seconds since the beginning of 1970 in UTC, between the first second of
the year -262143 and the last of 262142. It is written as a calendar date and a time of day; the
calendar is the Gregorian one, extended in both directions, and a year outside 0 to 9999 carries
its sign.
-/

namespace GroupFederation

/-- A second within the years -262143 to 262142. -/
structure Timestamp where
  seconds : Int
  lower_le : -8334601228800 ≤ seconds
  le_upper : seconds ≤ 8210266876799
  deriving DecidableEq, Repr

namespace Timestamp

/-- The instant a count of seconds stands for, if it lies in the range of the calendar. -/
def ofSeconds? (seconds : Int) : Option Timestamp :=
  if inside : -8334601228800 ≤ seconds ∧ seconds ≤ 8210266876799 then
    some ⟨seconds, inside.1, inside.2⟩
  else none

/-- A day of the calendar. -/
structure Date where
  year : Int
  month : Nat
  day : Nat
  deriving DecidableEq, Repr

/-- The date of a day counted from the first of January 1970. The count is moved to the first of
March of the year 0, so that the leap day ends a year and 146097 days make a full cycle. -/
def Date.ofDays (days : Int) : Date :=
  let shifted := days + 719468
  let cycle := shifted / 146097
  let dayOfCycle := (shifted % 146097).toNat
  let yearOfCycle :=
    (dayOfCycle - dayOfCycle / 1460 + dayOfCycle / 36524 - dayOfCycle / 146096) / 365
  let dayOfYear := dayOfCycle - (365 * yearOfCycle + yearOfCycle / 4 - yearOfCycle / 100)
  let monthFromMarch := (5 * dayOfYear + 2) / 153
  let month := if monthFromMarch < 10 then monthFromMarch + 3 else monthFromMarch - 9
  { year := yearOfCycle + cycle * 400 + if month ≤ 2 then 1 else 0
    month := month
    day := dayOfYear - (153 * monthFromMarch + 2) / 5 + 1 }

/-- The decimal digits of a number, padded with zeros to `width`. -/
def padded (width number : Nat) : String :=
  let digits := Nat.toDigits 10 number
  String.ofList (List.replicate (width - digits.length) '0' ++ digits)

/-- A year in at least four digits, with a sign when it lies outside 0 to 9999. -/
def yearText (year : Int) : String :=
  if year < 0 then "-" ++ padded 4 year.natAbs
  else if 9999 < year then "+" ++ padded 4 year.natAbs
  else padded 4 year.natAbs

/-- Date and time of day, to the second. -/
def text (instant : Timestamp) : String :=
  let date := Date.ofDays (instant.seconds / 86400)
  let second := (instant.seconds % 86400).toNat
  yearText date.year ++ "-" ++ padded 2 date.month ++ "-" ++ padded 2 date.day ++ "T" ++
    padded 2 (second / 3600) ++ ":" ++ padded 2 (second / 60 % 60) ++ ":" ++
    padded 2 (second % 60) ++ "Z"

end Timestamp

end GroupFederation
