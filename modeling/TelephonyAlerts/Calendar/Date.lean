/-!
# Calendar dates

Dates of the proleptic Gregorian calendar from year 1 to year 9999, and the day of
the week each falls on.
-/

namespace TelephonyAlerts.Calendar

/-- Days are counted from Monday. -/
def weekdayNames : List String := ["Mon", "Tue", "Wed", "Thu", "Fri", "Sat", "Sun"]

def isLeap (year : Nat) : Bool :=
  year % 4 = 0 && (year % 100 != 0 || year % 400 = 0)

/-- The number of days in a month; 31 where there is no such month. -/
def daysInMonth (year month : Nat) : Nat :=
  if month = 2 then (if isLeap year then 29 else 28)
  else if month = 4 ∨ month = 6 ∨ month = 9 ∨ month = 11 then 30
  else 31

structure Date where
  year : Nat
  month : Nat
  day : Nat
  deriving DecidableEq, Repr

/-- Which part of a date or time lies outside its range. -/
inductive RangeError
  | year (given : Nat)
  | month
  | day
  | hour
  | minute
  | second
  /-- A distance from universal time of a day or more, in microseconds. -/
  | offset (microseconds : Int)
  deriving DecidableEq, Repr

def oneSecond : Nat := 1000000

def oneDay : Nat := 86400 * oneSecond

/-- A distance in time by whole days, the seconds beyond them and the microseconds beyond
these. -/
def durationText (microseconds : Int) : String :=
  let days := microseconds.fdiv oneDay
  let rest := microseconds.fmod oneDay
  let seconds := rest / oneSecond
  let beyond := rest % oneSecond
  let parts := (if days = 0 then [] else [s!"days={days}"]) ++
    (if seconds = 0 then [] else [s!"seconds={seconds}"]) ++
    (if beyond = 0 then [] else [s!"microseconds={beyond}"])
  let inner := if parts.isEmpty then "0" else ", ".intercalate parts
  s!"datetime.timedelta({inner})"

def RangeError.message : RangeError → String
  | .year given => s!"year {given} is out of range"
  | .month => "month must be in 1..12"
  | .day => "day is out of range for month"
  | .hour => "hour must be in 0..23"
  | .minute => "minute must be in 0..59"
  | .second => "second must be in 0..59"
  | .offset microseconds =>
    "offset must be a timedelta strictly between -timedelta(hours=24) and timedelta(hours=24), not "
      ++ durationText microseconds ++ "."

def padded (width n : Nat) : String :=
  let s := toString n
  String.ofList (List.replicate (width - s.length) '0') ++ s

namespace Date

/-- The date with the given parts, if the calendar has it. -/
def make (year month day : Nat) : Except RangeError Date :=
  if year = 0 ∨ 9999 < year then .error (.year year)
  else if month = 0 ∨ 12 < month then .error .month
  else if day = 0 ∨ daysInMonth year month < day then .error .day
  else .ok ⟨year, month, day⟩

/-- The number of days from the first of January of year 1, that day counting as 1. -/
def ordinal (d : Date) : Nat :=
  let y := d.year - 1
  let before := y * 365 + y / 4 - y / 100 + y / 400
  let months := (List.range (d.month - 1)).foldl (fun n m => n + daysInMonth d.year (m + 1)) 0
  before + months + d.day

/-- The day of the week, Monday being 0. -/
def weekday (d : Date) : Nat := (d.ordinal + 6) % 7

def weekdayName (d : Date) : String := weekdayNames.getD d.weekday ""

def text (d : Date) : String :=
  s!"{padded 4 d.year}-{padded 2 d.month}-{padded 2 d.day}"

example : (Date.mk 2026 10 19).weekdayName = "Mon" ∧ (Date.mk 1 1 1).weekdayName = "Mon" ∧
    (Date.mk 2000 2 29).weekdayName = "Tue" := by decide +kernel

end Date

end TelephonyAlerts.Calendar
