import TelephonyAlerts.Calendar.Moment
import TelephonyAlerts.Calendar.Week
import TelephonyAlerts.Number.Reader
import TelephonyAlerts.Text.Quoted

/-!
# Moments written as text

A moment is a date, by month or by week, and possibly one character of any kind and a
time of day. Hyphens in the date and colons in the time are used throughout or not at
all. A distance from universal time may stand behind the time of day; what the time of
day leaves unread before it does not count.
-/

namespace TelephonyAlerts.Calendar

open TelephonyAlerts.Number (isDigit natOfDigits)

inductive MomentError
  | malformed (text : String)
  | range (error : RangeError)
  deriving DecidableEq, Repr

def MomentError.message : MomentError → String
  | .malformed text => "Invalid isoformat string: " ++ Text.quoted text
  | .range error => error.message

namespace Moment

/-- A number of exactly `n` ASCII digits and the text behind it. -/
def takeNumber? (n : Nat) (s : List Char) : Option (Nat × List Char) :=
  let ds := s.take n
  if ds.length = n && ds.all isDigit then some (natOfDigits ds, s.drop n) else none

/-- Digits of a fraction of a second as microseconds; digits beyond the sixth go. -/
def microseconds (ds : List Char) : Nat :=
  natOfDigits ((ds ++ List.replicate 6 '0').take 6)

/-! ## Dates -/

/-- Year, month and day of a date by week, of which the week has been read. The day is
Monday where none is written. -/
def readDay? (year week : Nat) (s : List Char) (isWritten : Bool) :
    Option ((Nat × Nat × Nat) × List Char) := do
  let (day, s) ← if isWritten then takeNumber? 1 s else pure (1, s)
  return (← placeOfWeek? year week day, s)

/-- Year, month and day of a date at the start of a text, and what follows it. -/
def readDate? (s : List Char) : Option ((Nat × Nat × Nat) × List Char) := do
  let (y, s) ← takeNumber? 4 s
  match s with
  | '-' :: 'W' :: s =>
    let (w, s) ← takeNumber? 2 s
    -- A hyphen with two digits behind it starts the time of day.
    match s with
    | '-' :: _ :: c :: _ => if isDigit c then readDay? y w s false else readDay? y w s.tail true
    | '-' :: _ => readDay? y w s.tail true
    | _ => readDay? y w s false
  | '-' :: s =>
    let (m, s) ← takeNumber? 2 s
    let '-' :: s := s | none
    let (d, s) ← takeNumber? 2 s
    return ((y, m, d), s)
  | 'W' :: s =>
    let (w, s) ← takeNumber? 2 s
    -- A digit with pairs of digits behind it starts the time of day.
    let count := (s.takeWhile isDigit).length
    readDay? y w s (count = 1 || (count != 0 && count % 2 = 0))
  | s =>
    let (m, s) ← takeNumber? 2 s
    let (d, s) ← takeNumber? 2 s
    return ((y, m, d), s)

/-! ## Times of day -/

structure Clock where
  hour : Nat := 0
  minute : Nat := 0
  second : Nat := 0
  microsecond : Nat := 0
  unread : List Char := []

/-- A clock on which the parts that have two digits are set. -/
def Clock.ofPairs (pairs : List Nat) (microsecond : Nat) (unread : List Char) : Clock :=
  ⟨pairs.getD 0 0, pairs.getD 1 0, pairs.getD 2 0, microsecond, unread⟩

/-- Up to six digits of a fraction; more of them are left out. -/
def readFraction? (pairs : List Nat) (s : List Char) : Option Clock :=
  let count := min 6 s.length
  (takeNumber? count s).map fun (_, rest) =>
    Clock.ofPairs pairs (microseconds (s.take count)) (rest.dropWhile isDigit)

/-- Up to `n` numbers of two digits behind those read, then a fraction. -/
def readPairs? (colons : Bool) : Nat → List Nat → List Char → Option Clock
  | 0, pairs, s => readFraction? pairs s
  | n + 1, pairs, s => do
    let (v, s) ← takeNumber? 2 s
    let pairs := pairs ++ [v]
    match s with
    -- One character alone behind a number is left unread.
    | [] | [_] => return Clock.ofPairs pairs 0 s
    | c :: r =>
      if colons && c = ':' then readPairs? colons n pairs r
      else if c = '.' || c = ',' then readFraction? pairs r
      else if colons then none
      else readPairs? colons n pairs s

/-- Hours, then minutes, then seconds, then a fraction, each of them only after the
one before it. Colons separate them if one stands behind the hours. -/
def readClock? (s : List Char) : Option Clock := readPairs? (s[2]? = some ':') 3 [] s

def isZoneMark (c : Char) : Bool := c == '+' || c == '-' || c == 'Z'

/-- A distance from universal time: `Z`, or a sign and a time. -/
def readOffset? : List Char → Option Int
  | ['Z'] => some 0
  | c :: r => do
    let sign : Int ← if c = '+' then some 1 else if c = '-' then some (-1) else none
    let t ← readClock? r
    guard t.unread.isEmpty
    let seconds := t.hour * 3600 + t.minute * 60 + t.second
    -- A fraction of a second alone does not count.
    return if seconds = 0 then 0 else sign * (seconds * oneSecond + t.microsecond : Nat)
  | [] => none

def readTime? (s : List Char) : Option (Clock × Option Int) := do
  let t ← readClock? (s.takeWhile fun c => !isZoneMark c)
  match s.dropWhile fun c => !isZoneMark c with
  | [] =>
    guard t.unread.isEmpty
    return (t, none)
  | zone => return (t, some (← readOffset? zone))

/-! ## Moments -/

def readParts? (s : List Char) : Option ((Nat × Nat × Nat) × Clock × Option Int) := do
  let (date, s) ← readDate? s
  match s with
  | [] => return (date, {}, none)
  | _ :: t => return (date, ← readTime? t)

def read (text : String) : Except MomentError Moment :=
  match readParts? text.toList with
  | none => .error (.malformed text)
  | some ((y, m, d), t, offset) =>
    (make y m d t.hour t.minute t.second t.microsecond offset).mapError .range

end Moment

end TelephonyAlerts.Calendar
