/-!
# Numbers of the 64-bit binary format

A finite number is `±m·2^e`, so comparison and truncation are exact arithmetic on
integers, and every other operation is an exact quotient that is rounded once:
to the nearest number of the format, a half to the even neighbour.
-/

namespace TelephonyAlerts.Number

/-- `n / d` rounded to the nearest integer, a half to the even neighbour. -/
def roundDiv (n d : Nat) : Nat :=
  let q := n / d
  let r := n % d
  if 2 * r < d then q
  else if d < 2 * r then q + 1
  else if q % 2 = 0 then q else q + 1

/-- A quotient of natural numbers, the denominator meant to be positive. -/
structure Ratio where
  num : Nat
  den : Nat
  deriving DecidableEq, Repr

/-- `n·b^e` for an exponent of either sign. -/
def Ratio.scaled (n b : Nat) : Int → Ratio
  | .ofNat k => ⟨n * b.pow k, 1⟩
  | .negSucc k => ⟨n, b.pow (k + 1)⟩

/-- A number of the 64-bit binary format. `finite s m e` is `m·2^e`, negated when
`s` holds; rounding builds it with `m < 2^53` and `-1074 ≤ e ≤ 971`, and with
`2^52 ≤ m` unless `e = -1074`, so a value has one form. -/
inductive Binary64
  | nan
  | infinite (negative : Bool)
  | finite (negative : Bool) (mantissa : Nat) (exponent : Int)
  deriving DecidableEq, Repr

namespace Binary64

def zero (negative : Bool) : Binary64 := .finite negative 0 (-1074)

def one : Binary64 := .finite false (Nat.pow 2 52) (-52)

/-- The exponent of the highest power of two that a positive quotient reaches. -/
def binade (r : Ratio) : Int :=
  let e : Int := r.num.log2 - r.den.log2
  let p := Ratio.scaled r.den 2 e
  -- The difference of the logarithms is right or one too large.
  if r.num * p.den < p.num then e - 1 else e

/-- A quotient, negated when `negative` holds, rounded to the format. -/
def ofRatio (negative : Bool) (r : Ratio) : Binary64 :=
  if r.num = 0 then zero negative
  else
    let q := max (binade r - 52) (-1074)
    let unit := Ratio.scaled r.den 2 q
    let m := roundDiv (r.num * unit.den) unit.num
    -- A mantissa that was rounded up to a power of two takes the next exponent.
    let (m, q) := if m = Nat.pow 2 53 then (Nat.pow 2 52, q + 1) else (m, q)
    if 971 < q then .infinite negative else .finite negative m q

def ofInt (n : Int) : Binary64 := ofRatio (n < 0) ⟨n.natAbs, 1⟩

/-- The nearest number to `coefficient·10^exponent`, negated when `negative` holds. -/
def ofDecimal (negative : Bool) (coefficient : Nat) (exponent : Int) : Binary64 :=
  let places := exponent + (Nat.toDigits 10 coefficient).length
  if coefficient = 0 then zero negative
  -- Far outside the range of the format the number of digits settles the quotient.
  else if 400 < places then .infinite negative
  else if places < -400 then zero negative
  else ofRatio negative (Ratio.scaled coefficient 10 exponent)

def magnitude (m : Nat) (e : Int) : Ratio := Ratio.scaled m 2 e

/-- The numerator, with its sign, and the denominator of a finite number. -/
def fraction? : Binary64 → Option (Int × Nat)
  | .finite s m e =>
    let r := magnitude m e
    some (if s then -(r.num : Int) else r.num, r.den)
  | _ => none

/-- Whether a number differs from zero; what is no number does. -/
def isNonzero : Binary64 → Bool
  | .finite _ m _ => m != 0
  | _ => true

def inUnit : Binary64 → Bool
  | .finite s m e => (!s || m == 0) && (magnitude m e).num ≤ (magnitude m e).den
  | _ => false

def isAtLeastOne : Binary64 → Bool
  | .finite s m e => !s && (magnitude m e).den ≤ (magnitude m e).num
  | .infinite s => !s
  | .nan => false

def negate : Binary64 → Binary64
  | .finite s m e => .finite (!s) m e
  | .infinite s => .infinite (!s)
  | .nan => .nan

/-- The product with a small natural number, rounded once. -/
def scale (k : Nat) : Binary64 → Binary64
  | .finite s m e => let r := magnitude m e; ofRatio s ⟨r.num * k, r.den⟩
  | x => x

def add (x y : Binary64) : Binary64 :=
  match x, y with
  | .nan, _ => .nan
  | _, .nan => .nan
  | .infinite s, .infinite t => if s = t then .infinite s else .nan
  | .infinite s, _ => .infinite s
  | _, .infinite t => .infinite t
  | .finite s m e, .finite t n f =>
    let a := magnitude m e
    let b := magnitude n f
    let a' : Int := a.num * b.den
    let b' : Int := b.num * a.den
    let sum := (if s then -a' else a') + (if t then -b' else b')
    -- A sum is the negative zero only where both numbers are.
    ofRatio (if sum = 0 then s && t else sum < 0) ⟨sum.natAbs, a.den * b.den⟩

/-- Whether two numbers are equal as numbers: the zeros are, what is no number is not. -/
def sameValue (x y : Binary64) : Bool :=
  match x, y with
  | .infinite s, .infinite t => s == t
  | .finite .., .finite .. =>
    match x.fraction?, y.fraction? with
    | some (a, b), some (c, d) => a * d == c * b
    | _, _ => false
  | _, _ => false

def isInt (x : Binary64) (n : Int) : Bool :=
  match x.fraction? with
  | some (a, b) => a == n * b
  | none => false

/-- Why a number has no integral part. -/
inductive Unbounded
  | nan
  | infinite
  deriving DecidableEq, Repr

/-- The integral part, rounded toward zero. -/
def truncate : Binary64 → Except Unbounded Int
  | .finite s m e =>
    let r := magnitude m e
    let n : Int := (r.num / r.den : Nat)
    .ok (if s then -n else n)
  | .infinite _ => .error .infinite
  | .nan => .error .nan

example : ofInt 1 = one ∧ ofDecimal false 1 0 = one ∧
    ofDecimal false 25 (-2) = .finite false (Nat.pow 2 52) (-54) := by
  decide +kernel

example : ofDecimal false 5 (-324) = .finite false 1 (-1074) ∧
    ofDecimal false 2 308 = .infinite false := by
  decide +kernel

end Binary64

end TelephonyAlerts.Number
