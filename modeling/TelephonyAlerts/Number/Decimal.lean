import TelephonyAlerts.Number.Binary64

/-!
# Decimal texts of integers and exact quotients

An integer is written in full or not at all: one of too many digits is refused. A
quotient is written by its digits at a fixed number of places or at a fixed number of
significant digits, the last one rounded to nearest with a half going to the even
neighbour, or by the shortest digits that read back as the same number.
-/

namespace TelephonyAlerts.Number

/-! ## Integers -/

/-- The digits that an integer may have where it is written in decimal. -/
def digitLimit : Nat := 4300

/-- What is told of an integer that has more digits than are ever written. -/
structure TooManyDigits where
  deriving DecidableEq, Repr

def TooManyDigits.message (_ : TooManyDigits) : String :=
  s!"Exceeds the limit ({digitLimit} digits) for integer string conversion; " ++
    "use sys.set_int_max_str_digits() to increase the limit"

-- The bound is a huge number, so nothing but its name is ever looked at.
@[irreducible] def isWritable (n : Int) : Bool := n.natAbs < Nat.pow 10 digitLimit

/-- An integer in decimal. Whatever writes an integer writes it so, or fails as this does. -/
def written (n : Int) : Except TooManyDigits String :=
  if isWritable n then .ok (toString n) else .error {}

theorem written_eq_ok {n : Int} {s : String} :
    written n = .ok s ↔ isWritable n = true ∧ toString n = s := by
  unfold written
  split <;> simp_all

example : isWritable (10 ^ 4299) = true ∧ isWritable (-(10 ^ 4300)) = false := by
  decide +kernel

/-! ## Quotients -/

def digits (n : Nat) : List Char := Nat.toDigits 10 n

def zeroPadded (width : Nat) (ds : List Char) : List Char :=
  List.replicate (width - ds.length) '0' ++ ds

/-- A decimal point and the digits after it, or nothing. -/
def fractionPart (pointed : Bool) (ds : List Char) : List Char :=
  if ds.isEmpty && !pointed then [] else '.' :: ds

/-- A decimal exponent, signed and of two digits at least. -/
def exponentPart (mark : Char) (e : Int) : List Char :=
  mark :: (if e < 0 then '-' else '+') :: zeroPadded 2 (digits e.natAbs)

/-- A quotient with `places` digits after the point; `pointed` keeps a point that
no digit follows. -/
def fixedText (r : Ratio) (places : Nat) (pointed : Bool) : List Char :=
  let ds := zeroPadded (places + 1) (digits (roundDiv (r.num * Nat.pow 10 places) r.den))
  let whole := ds.length - places
  ds.take whole ++ fractionPart pointed (ds.drop whole)

/-- The decimal exponent of the first digit of a positive quotient. -/
def decimalExponent (r : Ratio) : Int :=
  if r.den ≤ r.num then (digits (r.num / r.den)).length - 1
  else -((digits ((r.den - 1) / r.num)).length : Int)

/-- `count` significant digits of a quotient and the exponent of the first. -/
def significant (r : Ratio) (count : Nat) : List Char × Int :=
  if r.num = 0 then (List.replicate count '0', 0)
  else
    let e := decimalExponent r
    let step := Ratio.scaled r.den 10 (e + 1 - count)
    let n := roundDiv (r.num * step.den) step.num
    -- A row of nines may be rounded up to a power of ten.
    if n = Nat.pow 10 count then (digits (Nat.pow 10 (count - 1)), e + 1) else (digits n, e)

/-- Digits of which the first stands before the point, then the exponent. -/
def scientificLayout (mark : Char) (pointed : Bool) (ds : List Char) (e : Int) : List Char :=
  ds.take 1 ++ fractionPart pointed (ds.drop 1) ++ exponentPart mark e

/-- Digits with the point placed by the exponent `e` of the first digit; zeros fill
the gap between the digits and the point. -/
def positionalLayout (pointed : Bool) (ds : List Char) (e : Int) : List Char :=
  match e with
  | .ofNat k =>
    let whole := ds.take (k + 1)
    whole ++ List.replicate (k + 1 - whole.length) '0' ++ fractionPart pointed (ds.drop (k + 1))
  | .negSucc k => '0' :: fractionPart pointed (List.replicate k '0' ++ ds)

/-- A quotient with one digit before the point, `places` after it, and an exponent. -/
def scientificText (r : Ratio) (places : Nat) (mark : Char) (pointed : Bool) : List Char :=
  let (ds, e) := significant r (places + 1)
  scientificLayout mark pointed ds e

def dropTrailingZeros (ds : List Char) : List Char :=
  (ds.reverse.dropWhile (· == '0')).reverse

/-- A quotient of `count` significant digits, by exponent when the exponent is below
-4 or not below `count`. Zeros at the end go, unless `pointed` keeps them. -/
def generalText (r : Ratio) (count : Nat) (mark : Char) (pointed : Bool) : List Char :=
  let count := max count 1
  let (ds, e) := significant r count
  let ds := if pointed then ds else
    match dropTrailingZeros ds with
    | [] => ['0']
    | kept => kept
  if e < -4 ∨ (count : Int) ≤ e then scientificLayout mark pointed ds e
  else positionalLayout pointed ds e

/-- One grid of the search for the shortest digits: the multiple of `10^k` nearest to
`m·2^q`, if a multiple of `10^k` lies among the reals that round to `m·2^q`. -/
def nearestOnGrid? (m : Nat) (q k : Int) : Option Nat :=
  let unit := Ratio.scaled 1 2 (q - 2)
  let step := Ratio.scaled 1 10 k
  let x := unit.num * step.den
  let y := step.num * unit.den
  -- Those reals reach half a unit to each side, a quarter of one below a power of two, and
  -- the ends belong to them when `m` is even.
  let below := if m = Nat.pow 2 52 ∧ -1074 < q then 4 * m - 1 else 4 * m - 2
  let above := 4 * m + 2
  let inside (c : Nat) : Bool :=
    if m % 2 = 0 then below * x ≤ c * y && c * y ≤ above * x
    else below * x < c * y && c * y < above * x
  let c := 4 * m * x / y
  let fallsShort := 4 * m * x - c * y
  let overshoots := (c + 1) * y - 4 * m * x
  match inside c, inside (c + 1) with
  | true, true =>
    if fallsShort < overshoots then some c
    else if overshoots < fallsShort then some (c + 1)
    else some (if c % 2 = 0 then c else c + 1)
  | true, false => some c
  | false, true => some (c + 1)
  | false, false => none

/-- The shortest digits that read back as `m·2^q`, and the exponent of the first. -/
def shortestDigits (m : Nat) (q : Int) : List Char × Int :=
  if m = 0 then (['0'], 0)
  else
    let e := decimalExponent (Binary64.magnitude m q)
    -- Seventeen digits always tell two numbers of the format apart.
    let tries := (List.range 17).findSome? fun (n : Nat) =>
      (nearestOnGrid? m q (e - n)).map fun c => (digits c, e - n)
    match tries with
    | some (ds, k) => (dropTrailingZeros ds, k + ds.length - 1)
    | none => significant (Binary64.magnitude m q) 17

/-- Where the text of a number changes from positions to an exponent. -/
structure Positional where
  least : Int
  bound : Int

/-- Numbers from 0.0001 to below 10^16 are written by position. -/
def positional : Positional := ⟨-4, 16⟩

/-- The shortest text of a number that reads back as it; a whole number keeps one
zero after the point. -/
def Binary64.chars : Binary64 → List Char
  | .nan => "nan".toList
  | .infinite s => if s then "-inf".toList else "inf".toList
  | .finite s m q =>
    let (ds, e) := shortestDigits m q
    let body :=
      if e < positional.least ∨ positional.bound ≤ e then scientificLayout 'e' false ds e
      else
        let text := positionalLayout false ds e
        if '.' ∈ text then text else text ++ ['.', '0']
    if s then '-' :: body else body

def Binary64.text (x : Binary64) : String := String.ofList x.chars

end TelephonyAlerts.Number
