import TelephonyAlerts.Calendar.Moment.Reader
import TelephonyAlerts.Data.Datum
import TelephonyAlerts.Number.Reader
import TelephonyAlerts.Yaml.Node
import TelephonyAlerts.Yaml.Token.Quoted

/-!
# Values of scalars

What the text of a plain scalar looks like decides what it stands for: nothing, a truth
value, a number, a date or a moment, and otherwise itself. Numbers may group their
digits with underscores, and colons separate digits of base 60.
-/

namespace TelephonyAlerts.Yaml.Scalar

open TelephonyAlerts.Data TelephonyAlerts.Number TelephonyAlerts.Calendar

/-! ## Nothing and truth -/

def nullTexts : List String := ["", "~", "null", "Null", "NULL"]

def trueTexts : List String :=
  ["yes", "Yes", "YES", "true", "True", "TRUE", "on", "On", "ON"]

def falseTexts : List String :=
  ["no", "No", "NO", "false", "False", "FALSE", "off", "Off", "OFF"]

def bool? (s : String) : Option Bool :=
  if trueTexts.contains s then some true
  else if falseTexts.contains s then some false
  else none

/-! ## Numbers -/

def ungrouped (s : List Char) : List Char := s.filter (· != '_')

def sign : List Char → Bool × List Char
  | '-' :: r => (true, r)
  | '+' :: r => (false, r)
  | r => (false, r)

/-- Whether a text is made of a class of characters and underscores, one at least. -/
def isRun (p : Char → Bool) (s : List Char) : Bool :=
  !s.isEmpty && s.all fun c => p c || c == '_'

def ofBase (base : Nat) (ds : List Char) : Nat :=
  ds.foldl (fun n c => n * base + (Quoted.hexValue? c).getD 0) 0

/-- The number of a base behind its mark, grouped digits allowed. -/
def marked (base : Nat) (p : Char → Bool) (s : List Char) : Option (Except Fault Nat) :=
  if isRun p s then
    match ungrouped s with
    | [] => some (.error (.noDigits base))
    | ds => some (.ok (ofBase base ds))
  else none

def isBinary (c : Char) : Bool := c == '0' || c == '1'

def isOctal (c : Char) : Bool := '0' ≤ c && c ≤ '7'

def isHex (c : Char) : Bool := (Quoted.hexValue? c).isSome

/-- Whether a text is a digit of base 60 that follows another one. -/
def isSixtieth : List Char → Bool
  | [d] => isDigit d
  | [t, d] => '0' ≤ t && t ≤ '5' && isDigit d
  | _ => false

def splitColons : List Char → List (List Char)
  | [] => [[]]
  | ':' :: r => [] :: splitColons r
  | c :: r =>
    match splitColons r with
    | first :: others => (c :: first) :: others
    | [] => [[c]]

/-- An integer without its sign. -/
def natural? (s : List Char) : Option (Except Fault Nat) :=
  match s with
  | '0' :: 'b' :: ds => marked 2 isBinary ds
  | '0' :: 'x' :: ds => marked 16 isHex ds
  | '0' :: ds =>
    if ds.all fun c => isOctal c || c == '_' then some (.ok (ofBase 8 (ungrouped ds))) else none
  | _ =>
    match splitColons s with
    | whole :: sixtieths =>
      if isRun isDigit whole && whole.head?.all isDigit && sixtieths.all isSixtieth then
        some ((decimal (ungrouped whole)).map fun n =>
          sixtieths.foldl (fun n d => n * 60 + natOfDigits d) n)
      else none
    | [] => none

def int? (s : List Char) : Option (Except Fault Int) :=
  let (negative, digits) := sign s
  (natural? digits).map fun n => n.map fun n => if negative then -(n : Int) else n

/-- Whether a text is an exponent with a sign, or nothing at all. -/
def isExponent : List Char → Bool
  | [] => true
  | e :: s :: ds =>
    (e == 'e' || e == 'E') && (s == '+' || s == '-') && !ds.isEmpty && ds.all isDigit
  | _ => false

/-- Whether a text without sign has the form of a decimal fraction. -/
def isFraction (isSigned : Bool) (s : List Char) : Bool :=
  let isGrouped (c : Char) : Bool := isDigit c || c == '_'
  match s with
  -- A point at the start allows for no sign before it.
  | '.' :: d :: r => !isSigned && isDigit d && isExponent (r.dropWhile isGrouped)
  | d :: r =>
    isDigit d &&
      match r.dropWhile isGrouped with
      | '.' :: r => isExponent (r.dropWhile isGrouped)
      | _ => false
  | [] => false

/-- The parts of a fraction whose whole part is written in base 60. -/
def sixtieths? (s : List Char) : Option (List (List Char)) :=
  let parts := splitColons s
  match parts, parts.getLast? with
  | whole :: _ :: _, some last =>
    let middle := (parts.drop 1).dropLast
    let unit := last.takeWhile (· != '.')
    let fraction := last.dropWhile (· != '.')
    if isRun isDigit whole && whole.head?.all isDigit && middle.all isSixtieth && isSixtieth unit &&
        !fraction.isEmpty && fraction.tail.all fun c => isDigit c || c == '_'
    then some parts
    else none
  | _, _ => none

/-- The number that a text without underscores writes. -/
def fraction (s : List Char) : Binary64 := (Binary64.read? (String.ofList s)).getD .nan

/-- The sum of parts that each count sixty times as much as the one behind it, the last
part first. -/
def sumSixtieths (parts : List (List Char)) : Binary64 :=
  (parts.reverse.zipIdx.map fun (p, k) => (fraction (ungrouped p)).scale (Nat.pow 60 k)).foldl .add
    (.zero false)

def float? (s : List Char) : Option Binary64 :=
  let (negative, digits) := sign s
  let signed (x : Binary64) : Binary64 := if negative then x.negate else x
  if [".inf", ".Inf", ".INF"].contains (String.ofList digits) then some (signed (.infinite false))
  else if [".nan", ".NaN", ".NAN"].contains (String.ofList s) then some .nan
  else if isFraction (digits.length != s.length) digits then
    some (signed (fraction (ungrouped digits)))
  else (sixtieths? digits).map fun parts => signed (sumSixtieths parts)

/-! ## Dates and moments -/

/-- One or two digits. -/
def shortNumber? (s : List Char) : Option (Nat × List Char) :=
  match s.takeWhile isDigit with
  | [a] => some (natOfDigits [a], s.drop 1)
  | a :: b :: _ => some (natOfDigits [a, b], s.drop 2)
  | [] => none

/-- The distance from universal time, if one is written; spaces may stand before it. -/
def zone? (s : List Char) : Option (Option Int) :=
  match s with
  | [] => some none
  | _ =>
    match s.dropWhile isSpace with
    | ['Z'] => some (some 0)
    | c :: r => do
      let sign : Int ← if c = '+' then some 1 else if c = '-' then some (-1) else none
      let (h, r) ← shortNumber? r
      match r with
      | [] => return some (sign * (h * 3600 * oneSecond : Nat))
      | ':' :: r =>
        let (m, []) ← Moment.takeNumber? 2 r | none
        return some (sign * ((h * 3600 + m * 60) * oneSecond : Nat))
      | _ => none
    | [] => none

def clock? (s : List Char) : Option (Nat × Nat × Nat × Nat × Option Int) := do
  let (h, s) ← shortNumber? s
  let ':' :: s := s | none
  let (m, s) ← Moment.takeNumber? 2 s
  let ':' :: s := s | none
  let (sec, s) ← Moment.takeNumber? 2 s
  match s with
  | '.' :: s =>
    let zone ← zone? (s.dropWhile isDigit)
    return (h, m, sec, Moment.microseconds (s.takeWhile isDigit), zone)
  | s =>
    let zone ← zone? s
    return (h, m, sec, 0, zone)

/-- The text behind what separates a date from a time of day. -/
def afterDate? : List Char → Option (List Char)
  | 'T' :: s | 't' :: s => some s
  | c :: s => if isSpace c then some (s.dropWhile isSpace) else none
  | [] => none

/-- The date or moment that a text stands for. -/
def time? (s : List Char) : Option (Except RangeError Datum) := do
  let (y, rest) ← Moment.takeNumber? 4 s
  let '-' :: rest := rest | none
  let (m, rest) ← shortNumber? rest
  let '-' :: rest := rest | none
  let (d, rest) ← shortNumber? rest
  match rest with
  -- A date alone has two digits for its month and its day.
  | [] => if s.length = 10 then return (Date.make y m d).map .date else none
  | _ =>
    let (h, min, sec, us, zone) ← clock? (← afterDate? rest)
    return (Moment.make y m d h min sec us zone).map .moment

/-! ## Scalars -/

/-- What a plain scalar stands for. -/
def plain (text : String) : Except Fault Datum :=
  if nullTexts.contains text then .ok .null
  -- The marks of merging and of a default stand for nothing of their own.
  else if text = "<<" ∨ text = "=" then .error .malformed
  else
    let s := text.toList
    match bool? text, float? s, int? s, time? s with
    | some b, _, _, _ => .ok (.bool b)
    | none, some x, _, _ => .ok (.float x)
    | none, none, some n, _ => n.map .int
    | none, none, none, some t => t.mapError .range
    | none, none, none, none => .ok (.text text)

def ofKind (k : Kind) (text : String) : Except Fault Datum :=
  let known (d : Option Datum) : Except Fault Datum := d.elim (.error .malformed) .ok
  match k with
  | .null => .ok .null
  | .bool => known ((bool? text).map .bool)
  | .int => ((int? text.toList).getD (.error .malformed)).map .int
  | .float => known (((float? text.toList).orElse fun _ => Binary64.read? text).map .float)
  | .time => ((time? text.toList).map (·.mapError .range)).getD (.error .malformed)

def value (r : Reading) (text : String) : Except Fault Datum :=
  match r with
  | .implicit => plain text
  | .text => .ok (.text text)
  | .kind k => ofKind k text
  | .unknown => .error .malformed

end TelephonyAlerts.Yaml.Scalar
