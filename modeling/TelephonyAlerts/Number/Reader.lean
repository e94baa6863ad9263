import TelephonyAlerts.Number.Binary64
import TelephonyAlerts.Text.Digit

/-!
# Numbers written as text

A number may stand between blanks, carry a sign, use the digits of any script and
group them with single underscores. The names of infinity and of what is no
number are read in any case.
-/

namespace TelephonyAlerts.Number

open TelephonyAlerts.Text

/-- The text with every digit in ASCII, or `none` where a character outside ASCII is
neither a digit nor a blank. -/
def narrowed? (s : List Char) : Option (List Char) :=
  s.mapM fun c =>
    if c.toNat < 128 then some c
    else if isBlank c then some ' '
    else (digitValue? c).map digitChar

def isDigit (c : Char) : Bool := '0' ≤ c && c ≤ '9'

/-- The text without its underscores, each of which must stand between two digits. -/
def withoutUnderscores? : Char → List Char → Option (List Char)
  | _, [] => some []
  | before, '_' :: c :: r =>
    if isDigit before && isDigit c then (withoutUnderscores? c r).map (c :: ·) else none
  | _, ['_'] => none
  | _, c :: r => (withoutUnderscores? c r).map (c :: ·)

def natOfDigits (ds : List Char) : Nat := ds.foldl (fun n c => n * 10 + (c.toNat - 48)) 0

/-- An exponent mark and an exponent, or nothing at all. -/
def readExponent? : List Char → Option Int
  | [] => some 0
  | c :: r =>
    if c = 'e' ∨ c = 'E' then
      let (negative, ds) := match r with
        | '-' :: t => (true, t)
        | '+' :: t => (false, t)
        | t => (false, t)
      if !ds.isEmpty && ds.all isDigit then
        let n : Int := natOfDigits ds
        some (if negative then -n else n)
      else none
    else none

/-- A number without sign: digits around a point of which one side may be empty, then
an exponent; or a name. -/
def readUnsigned? (negative : Bool) (s : List Char) : Option Binary64 :=
  let lower := s.map Char.toLower
  if lower = "inf".toList ∨ lower = "infinity".toList then some (.infinite negative)
  else if lower = "nan".toList then some .nan
  else
    let whole := s.takeWhile isDigit
    let (part, rest) := match s.dropWhile isDigit with
      | '.' :: t => (t.takeWhile isDigit, t.dropWhile isDigit)
      | t => ([], t)
    if whole.isEmpty && part.isEmpty then none
    else (readExponent? rest).map fun e =>
      .ofDecimal negative (natOfDigits (whole ++ part)) (e - part.length)

def Binary64.read? (s : String) : Option Binary64 := do
  let narrow ← narrowed? s.toList
  let plain ← withoutUnderscores? ' ' narrow
  match trim plain with
  | '-' :: r => readUnsigned? true r
  | '+' :: r => readUnsigned? false r
  | r => readUnsigned? false r

end TelephonyAlerts.Number
