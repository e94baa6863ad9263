import TelephonyAlerts.Calendar.Date

/-!
# Moments

A date with a time of day and, possibly, a distance from universal time. The parts
are kept as written: the distance is never applied, so "the same day" compares the
dates that a reader sees.
-/

namespace TelephonyAlerts.Calendar

structure Moment where
  date : Date
  hour : Nat
  minute : Nat
  second : Nat
  microsecond : Nat
  /-- Microseconds ahead of universal time. -/
  offset : Option Int
  deriving DecidableEq, Repr

namespace Moment

/-- The moment with the given parts, if a clock shows it. -/
def make (year month day hour minute second microsecond : Nat) (offset : Option Int) :
    Except RangeError Moment := do
  -- The distance is looked at before the date.
  if let some o := offset then
    if o ≤ -oneDay ∨ oneDay ≤ o then throw (.offset o)
  let date ← Date.make year month day
  if 23 < hour then throw .hour
  if 59 < minute then throw .minute
  if 59 < second then throw .second
  return ⟨date, hour, minute, second, microsecond, offset⟩

def fractionText (microsecond : Nat) : String :=
  if microsecond = 0 then "" else "." ++ padded 6 microsecond

/-- A distance from universal time by sign, hours, minutes and, if any, seconds and their
fraction. -/
def offsetText (microseconds : Int) : String :=
  let n := microseconds.natAbs / oneSecond
  let sign := if microseconds < 0 then "-" else "+"
  let fraction := fractionText (microseconds.natAbs % oneSecond)
  let rest := if n % 60 = 0 ∧ fraction = "" then "" else ":" ++ padded 2 (n % 60) ++ fraction
  s!"{sign}{padded 2 (n / 3600)}:{padded 2 (n / 60 % 60)}{rest}"

/-- Date and time of day joined by the given text; a fraction only when there is one. -/
def textWith (separator : String) (t : Moment) : String :=
  let clock := s!"{padded 2 t.hour}:{padded 2 t.minute}:{padded 2 t.second}"
  t.date.text ++ separator ++ clock ++ fractionText t.microsecond ++
    (t.offset.map offsetText).getD ""

def text (t : Moment) : String := t.textWith "T"

def clockText (t : Moment) : String := s!"{padded 2 t.hour}:{padded 2 t.minute}"

/-- Hour and minute, with the day of the week in front unless it is today. -/
def shortText (t now : Moment) : String :=
  if t.date = now.date then t.clockText else s!"{t.date.weekdayName} {t.clockText}"

end Moment

end TelephonyAlerts.Calendar
