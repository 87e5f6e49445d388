/-
  File:      OpenerPolicy/Time/Calendar.lean
  Subject:   THE PROLEPTIC GREGORIAN CALENDAR: day numbers and dates.

  Days are counted from the first of January of year 1, which is day 0; the calendar repeats itself
  every 400 years, so a day number is first split into a cycle and a day within it.

  * `isLeap`, `monthLengths` -- the lengths of years and months;
  * `Date.ofDay` -- the date of a day number;
  * `Date.toDay` -- the day number of a date;
  * `sum_monthLengths` -- the months make up the year.
-/

namespace OpenerPolicy.Time

/-- Every fourth year is a leap year, except the hundredth, except the four hundredth. -/
def isLeap (year : Int) : Bool := year % 4 = 0 && (year % 100 ≠ 0 || year % 400 = 0)

def monthLengths (leap : Bool) : List Nat :=
  [31, if leap then 29 else 28, 31, 30, 31, 30, 31, 31, 30, 31, 30, 31]

/-- The days of months together. -/
def daysOf (lengths : List Nat) : Nat := lengths.foldr (· + ·) 0

/-- A date; months and days are counted from 1. -/
structure Date where
  year : Int
  month : Nat
  day : Nat
  deriving DecidableEq, Repr

/-- Days in 400, 100, 4 years and one year, the leap day at the end of each left out where the
    next larger period has none. -/
def daysIn400Years : Nat := 146097

def daysIn100Years : Nat := 36524

def daysIn4Years : Nat := 1461

/-- Finds the month of a day of the year: the number of months passed, and the day within the
    month, both from 0. -/
def monthOf : List Nat → Nat → Nat × Nat
  | [], day => (0, day)
  | length :: rest, day =>
    if day < length then (0, day)
    else
      let (months, day) := monthOf rest (day - length)
      (months + 1, day)

/-- The year within a cycle of 400, from 0, and the day of the year, from 0. The last day of a
    period of four years, and of the cycle, belongs to its last year. -/
def yearOf (dayInCycle : Nat) : Nat × Nat :=
  let centuries := min (dayInCycle / daysIn100Years) 3
  let dayInCentury := dayInCycle - centuries * daysIn100Years
  let fours := dayInCentury / daysIn4Years
  let dayInFour := dayInCentury % daysIn4Years
  let years := min (dayInFour / 365) 3
  (100 * centuries + 4 * fours + years, dayInFour - 365 * years)

/-- **The date of a day number.** -/
def Date.ofDay (day : Int) : Date :=
  let cycle := day / daysIn400Years
  let (yearInCycle, dayOfYear) := yearOf (day % daysIn400Years).toNat
  let year := 400 * cycle + yearInCycle + 1
  let (months, dayOfMonth) := monthOf (monthLengths (isLeap year)) dayOfYear
  ⟨year, months + 1, dayOfMonth + 1⟩

/-- Days before the first of January of a year. -/
def daysBeforeYear (year : Int) : Int :=
  let y := year - 1
  365 * y + y / 4 - y / 100 + y / 400

/-- **The day number of a date.** -/
def Date.toDay (d : Date) : Int :=
  daysBeforeYear d.year + daysOf ((monthLengths (isLeap d.year)).take (d.month - 1)) + (d.day - 1)

/-- The months make up the year. -/
theorem sum_monthLengths (leap : Bool) :
    daysOf (monthLengths leap) = if leap then 366 else 365 := by
  cases leap <;> rfl

end OpenerPolicy.Time
