import ForgeDashboard.Fault

/-!
# The calendar

Days are counted from the first day of year 1, in the calendar with leap years every fourth year
except in three of four centuries, extended to all years.

## Main definitions

* `Date`, `Date.number` : a date, and the number of its day.
* `Date.ofDayNumber` : the date of a number.
* `weekDate?` : the date of a day of a week.
-/

namespace ForgeDashboard

/-- Has the year a 29th of February? -/
def isLeapYear (year : Nat) : Bool := year % 4 == 0 && (year % 100 != 0 || year % 400 == 0)

/-- The lengths of the months of a year. -/
def monthLengths (year : Nat) : List Nat :=
  [31, if isLeapYear year then 29 else 28, 31, 30, 31, 30, 31, 31, 30, 31, 30, 31]

/-- The number of days from the start of year 1 to the start of a year. -/
def daysBeforeYear (year : Nat) : Nat :=
  let whole := year - 1
  365 * whole + whole / 4 - whole / 100 + whole / 400

/-- A date: a year, and a month and a day counted from 1. -/
structure Date where
  year : Int
  month : Nat
  day : Nat
  deriving DecidableEq

/-- The number of days from the start of year 1 to a date, which must be one of the years 1 to 9999.
-/
def Date.number (d : Date) : Except StampProblem Nat :=
  let lengths := monthLengths d.year.toNat
  if d.year < 1 ∨ 9999 < d.year then .error (.year d.year)
  else if d.month < 1 ∨ 12 < d.month then .error .month
  else if d.day < 1 ∨ lengths.getD (d.month - 1) 0 < d.day then .error .day
  else
    .ok (daysBeforeYear d.year.toNat + (lengths.take (d.month - 1)).foldl (· + ·) 0 + (d.day - 1))

/-- The number of days of 400 years. -/
def daysPerEra : Int := 146097

/-- The day of a number.  Years are taken to begin in March, so that the day that only some of them
have comes last, and are counted within a run of 400 years. -/
def Date.ofDayNumber (n : Int) : Date :=
  let shifted := n + 306
  let era := shifted.fdiv daysPerEra
  let dayOfEra := (shifted - era * daysPerEra).toNat
  let yearOfEra := (dayOfEra - dayOfEra / 1460 + dayOfEra / 36524 - dayOfEra / 146096) / 365
  let dayOfYear := dayOfEra - (365 * yearOfEra + yearOfEra / 4 - yearOfEra / 100)
  let month := (5 * dayOfYear + 2) / 153
  let day := dayOfYear - (153 * month + 2) / 5 + 1
  let year : Int := 400 * era + yearOfEra
  if month < 10 then ⟨year, month + 3, day⟩ else ⟨year + 1, month - 9, day⟩

/-! ### Weeks

Weeks start on Mondays, as year 1 does.  A week counts to the year in which its Thursday lies.
-/

/-- The day of the week on which a year starts, counted from 0 for Monday. -/
def firstWeekday (year : Nat) : Nat := daysBeforeYear year % 7

/-- The number of weeks of a year. -/
def weeksOfYear (year : Nat) : Nat :=
  if firstWeekday year = 3 ∨ (firstWeekday year = 2 ∧ isLeapYear year) then 53 else 52

/-- The number of days from the start of year 1 to the first week of a year. -/
def daysBeforeWeeks (year : Nat) : Nat :=
  let weekday := firstWeekday year
  if weekday ≤ 3 then daysBeforeYear year - weekday else daysBeforeYear year + 7 - weekday

/-- The date of a day of a week, both counted from 1. -/
def weekDate? (year week weekday : Nat) : Option Date :=
  if 1 ≤ year ∧ 1 ≤ week ∧ week ≤ weeksOfYear year ∧ 1 ≤ weekday ∧ weekday ≤ 7 then
    some (Date.ofDayNumber (daysBeforeWeeks year + 7 * (week - 1) + (weekday - 1) : Nat))
  else none

end ForgeDashboard
