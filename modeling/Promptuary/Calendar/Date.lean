/-!
Dates of the Gregorian calendar, by year, month and day, and by their number in a count of days
that starts with the first of January of the year 1, which is a Monday.
-/

namespace Promptuary.Calendar

/-- A date. Months and days count from one. -/
structure Date where
  year : Nat
  month : Nat
  day : Nat
deriving DecidableEq, Repr

/-- Whether a year has a 29th of February. -/
def isLeap (year : Nat) : Bool :=
  year % 4 = 0 && (year % 100 ≠ 0 || year % 400 = 0)

/-- The number of days of a month; none for a number that is no month. -/
def daysInMonth (year month : Nat) : Nat :=
  match month with
  | 1 | 3 | 5 | 7 | 8 | 10 | 12 => 31
  | 4 | 6 | 9 | 11 => 30
  | 2 => if isLeap year then 29 else 28
  | _ => 0

/-- The number of days before a year. -/
def daysBeforeYear (year : Nat) : Nat :=
  let y := year - 1
  365 * y + y / 4 - y / 100 + y / 400

/-- The number of days of a year before a month. -/
def daysBeforeMonth (year : Nat) : (month : Nat) → Nat
  | 0 => 0
  | month + 1 => daysBeforeMonth year month + daysInMonth year month

/-- The number of a date in the count of days. -/
def Date.toDay (d : Date) : Nat :=
  daysBeforeYear d.year + daysBeforeMonth d.year d.month + (d.day - 1)

/-- The year that a day falls into: four-hundred-year cycles, then centuries, then cycles of four
years, then years. The last day of a cycle belongs to its last year. -/
def yearOfDay (day : Nat) : Nat :=
  let cycle := day / 146097
  let inCycle := day % 146097
  let century := min 3 (inCycle / 36524)
  let inCentury := inCycle - 36524 * century
  let quad := inCentury / 1461
  let inQuad := inCentury % 1461
  400 * cycle + 100 * century + 4 * quad + min 3 (inQuad / 365) + 1

/-- Finds the month that a day of a year falls into, from `month` on. -/
def monthFrom (year : Nat) : (fuel month left : Nat) → Nat × Nat
  | 0, month, left => (month, left)
  | fuel + 1, month, left =>
    if left < daysInMonth year month then (month, left)
    else monthFrom year fuel (month + 1) (left - daysInMonth year month)

/-- The date with a given number. -/
def Date.ofDay (day : Nat) : Date :=
  let year := yearOfDay day
  let (month, left) := monthFrom year 11 1 (day - daysBeforeYear year)
  ⟨year, month, left + 1⟩

/-- Whether a year, month and day make a date. -/
def Date.isValid (d : Date) : Bool :=
  1 ≤ d.year && d.year ≤ 9999 && 1 ≤ d.month && d.month ≤ 12 &&
    1 ≤ d.day && d.day ≤ daysInMonth d.year d.month

end Promptuary.Calendar
