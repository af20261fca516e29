/-!
# The civil calendar

Dates of the Gregorian calendar from year 1 to year 9999, as days counted from the first of them and
as year, month and day. `dayNumber` and `civil` convert between the two.
-/

namespace Vigil.Calendar

-- Sums begin with the zero of the natural numbers themselves.
attribute [local instance (high)] Zero.ofOfNat0

/-- Whether a year has a 29th of February. -/
def isLeap (year : Nat) : Bool := year % 4 = 0 && (year % 100 ≠ 0 || year % 400 = 0)

/-- The days of all years before one. -/
def daysBeforeYear (year : Nat) : Nat :=
  let y := year - 1
  y * 365 + y / 4 - y / 100 + y / 400

/-- The lengths of the months of a year. -/
def monthLengths (leap : Bool) : List Nat :=
  [31, if leap then 29 else 28, 31, 30, 31, 30, 31, 31, 30, 31, 30, 31]

/-- How many days a month has. -/
def daysInMonth (year month : Nat) : Nat := (monthLengths (isLeap year)).getD (month - 1) 0

/-- The days of all months of a year before one. -/
def daysBeforeMonth (year month : Nat) : Nat :=
  ((monthLengths (isLeap year)).take (month - 1)).sum

/-- A date as the number of days after 0001-01-01. -/
def dayNumber (year month day : Nat) : Nat :=
  daysBeforeYear year + daysBeforeMonth year month + (day - 1)

/-- The days from 0001-01-01 up to the last date, 9999-12-31, that one included. -/
def dayCount : Nat := 3652059

/-- A year, a month and a day. -/
structure Civil where
  /-- The year, from 1. -/
  year : Nat
  /-- The month, from 1. -/
  month : Nat
  /-- The day of the month, from 1. -/
  day : Nat
  deriving DecidableEq

/-- The month and day that a day of a year falls on, given the lengths of the months from `month`
on. -/
def monthAndDay (month : Nat) : List Nat → Nat → Nat × Nat
  | [], day => (month, day + 1)
  | length :: rest, day =>
    if day < length then (month, day + 1) else monthAndDay (month + 1) rest (day - length)

/-- The year of a day number and the day within that year, counted from 0. -/
def yearAndDay (days : Nat) : Nat × Nat :=
  let era := days / 146097
  let inEra := days % 146097
  let century := min (inEra / 36524) 3
  let inCentury := inEra - century * 36524
  let quad := inCentury / 1461
  let inQuad := inCentury % 1461
  let single := min (inQuad / 365) 3
  (era * 400 + century * 100 + quad * 4 + single + 1, inQuad - single * 365)

/-- The date of a day number. -/
def civil (days : Nat) : Civil :=
  let (year, inYear) := yearAndDay days
  let (month, day) := monthAndDay 1 (monthLengths (isLeap year)) inYear
  ⟨year, month, day⟩

/-- Whether year, month and day make a date. -/
def Civil.IsDate (c : Civil) : Prop :=
  1 ≤ c.year ∧ c.year ≤ 9999 ∧ 1 ≤ c.month ∧ c.month ≤ 12 ∧ 1 ≤ c.day ∧
    c.day ≤ daysInMonth c.year c.month

instance (c : Civil) : Decidable c.IsDate := by
  unfold Civil.IsDate
  infer_instance

/-- The day number of a date. -/
def Civil.toDays (c : Civil) : Nat := dayNumber c.year c.month c.day

/-- The day of the week of a day number, Monday being 0. -/
def weekday (days : Nat) : Nat := days % 7

/-- The day number of the Monday of the first week of a year, the week that has its first Thursday;
it may lie before the first date. -/
def firstMonday (year : Nat) : Int :=
  let start := dayNumber year 1 1
  let monday := (start : Int) - weekday start
  if weekday start ≤ 3 then monday else monday + 7

/-- Whether a year has 53 weeks. -/
def hasLongYear (year : Nat) : Bool :=
  let start := weekday (dayNumber year 1 1)
  start = 3 || (start = 2 && isLeap year)

example : civil (dayNumber 2024 2 29) = ⟨2024, 2, 29⟩ ∧ dayNumber 9999 12 31 + 1 = dayCount := by
  decide

end Vigil.Calendar
