import TelephonyAlerts.Calendar.Date

/-!
# Dates by week

A date can be told by its week: weeks start on Monday, and the first one of a year is
the one that holds the first Thursday. The days of a first or a last week may lie in
the neighbouring year.
-/

namespace TelephonyAlerts.Calendar

def daysInYear (year : Nat) : Nat := if isLeap year then 366 else 365

/-- The number of weeks of a year: 53 where the year starts on a Thursday, or is a leap
year that starts on a Wednesday. -/
def weeksInYear (year : Nat) : Nat :=
  let first := (Date.mk year 1 1).weekday
  if first = 3 ∨ (first = 2 ∧ isLeap year) then 53 else 52

/-- The days from the first of January to the Monday of the first week. -/
def firstMonday (year : Nat) : Int :=
  let first := (Date.mk year 1 1).weekday
  if first ≤ 3 then -(first : Int) else 7 - first

/-- Month and day of the day that comes some days after the first of the months given. -/
def placeInMonths (year : Nat) : List Nat → Nat → Option (Nat × Nat)
  | [], _ => none
  | m :: later, n =>
    if n < daysInMonth year m then some (m, n + 1)
    else placeInMonths year later (n - daysInMonth year m)

/-- Year, month and day of the day that comes some days after the first of January of a
year, or before it. -/
def placeFrom (year : Nat) : Int → Option (Nat × Nat × Nat)
  -- A week goes beyond its year by a few days at most.
  | .negSucc n => (placeInMonths (year - 1) [12] (30 - n)).map fun p => (year - 1, p)
  | .ofNat n =>
    if n < daysInYear year then
      (placeInMonths year (List.range' 1 12) n).map fun p => (year, p)
    else (placeInMonths (year + 1) [1] (n - daysInYear year)).map fun p => (year + 1, p)

/-- Year, month and day of a day of a week, Monday being 1. -/
def placeOfWeek? (year week day : Nat) : Option (Nat × Nat × Nat) :=
  if 1 ≤ week ∧ week ≤ weeksInYear year ∧ 1 ≤ day ∧ day ≤ 7 then
    placeFrom year (firstMonday year + ((week - 1) * 7 + (day - 1) : Nat))
  else none

example : placeOfWeek? 2026 43 1 = some (2026, 10, 19) ∧ placeOfWeek? 2027 1 1 = some (2027, 1, 4) ∧
    placeOfWeek? 2026 1 1 = some (2025, 12, 29) ∧ placeOfWeek? 2020 53 5 = some (2021, 1, 1) ∧
    placeOfWeek? 2027 53 1 = none := by decide +kernel

end TelephonyAlerts.Calendar
