import TelephonyAlerts.Number.Decimal
import TelephonyAlerts.Template.Layout

/-!
# Integers in a layout

An integer is written in one of four bases, as the character of its number, or as a
number of the 64-bit binary format: with a fixed number of places, with an exponent,
in whichever of the two is shorter, or as a percentage.
-/

namespace TelephonyAlerts.Template

open TelephonyAlerts.Number

/-- The base of a type of layout, and what names the base in front of the digits. -/
def baseOf? : Char → Option (Nat × List Char)
  | 'b' => some (2, ['0', 'b'])
  | 'o' => some (8, ['0', 'o'])
  | 'x' => some (16, ['0', 'x'])
  | 'X' => some (16, ['0', 'X'])
  | 'd' | 'n' => some (10, [])
  | _ => none

/-- Groups have four digits where the base is a power of two, and three in decimal. -/
def groupSizeOf (type : Char) : Nat := if type ∈ ['b', 'o', 'x', 'X'] then 4 else 3

def Layout.setInBase (l : Layout) (base : Nat) (name : List Char) (n : Int) :
    Except LayoutError (List Char) := do
  if l.precision.isSome then throw .preciseInteger
  if l.unsignedZero then throw .unsignedZeroInteger
  -- Only in decimal are long numbers refused.
  if base = 10 ∧ isWritable n = false then throw (.unwritable {})
  let ds := Nat.toDigits base n.natAbs
  return l.setNumber (groupSizeOf l.type)
    { negative := n < 0
      base := if l.alternate then name else []
      digits := if l.type = 'X' then ds.map Char.toUpper else ds }

/-- Sets the character that an integer is the number of. -/
def Layout.setCharacter (l : Layout) (n : Int) : Except LayoutError (List Char) := do
  if l.precision.isSome then throw .preciseInteger
  if l.unsignedZero then throw .unsignedZeroInteger
  if l.sign.isSome then throw .signedCharacter
  if l.alternate then throw .alternateCharacter
  if n < -(Nat.pow 2 63) ∨ Nat.pow 2 63 ≤ n then throw .numberBeyondWord
  if n < 0 ∨ 0x110000 ≤ n then throw .noSuchCharacter
  return l.setNumber 3 { tail := [Char.ofNat n.toNat] }

def fractionText (type : Char) (precision : Nat) (alternate : Bool) (r : Ratio) : List Char :=
  match type with
  | 'e' | 'E' => scientificText r precision type alternate
  | 'g' => generalText r precision 'e' alternate
  | 'G' => generalText r precision 'E' alternate
  | _ => fixedText r precision alternate

/-- Sets an integer as a number of the binary format. -/
def Layout.setFraction (l : Layout) (n : Int) : Except LayoutError (List Char) := do
  let precision := l.precision.getD 6
  if Nat.pow 2 31 - 1 < precision then throw .precisionTooLarge
  let x := Binary64.ofInt n
  if x = .infinite (n < 0) then throw .numberBeyondFloat
  let percent := if l.type = '%' then ['%'] else []
  -- A percentage is the number times a hundred, which may be too large.
  match if l.type = '%' then x.scale 100 else x with
  | .finite _ m e =>
    let text := fractionText l.type precision l.alternate (Binary64.magnitude m e)
    return l.setNumber 3
      { negative := n < 0
        digits := text.takeWhile isDecimal
        tail := text.dropWhile isDecimal ++ percent }
  | _ => return l.setNumber 3 { negative := n < 0, tail := "inf".toList ++ percent }
where
  isDecimal (c : Char) : Bool := '0' ≤ c && c ≤ '9'

def Layout.setInteger (l : Layout) (n : Int) : Except LayoutError (List Char) :=
  match baseOf? l.type with
  | some (base, name) => l.setInBase base name n
  | none =>
    if l.type = 'c' then l.setCharacter n
    else if l.type ∈ ['e', 'E', 'f', 'F', 'g', 'G', '%'] then l.setFraction n
    else .error (.unknownType l.type .number)

/-- The text of a value in a layout; without one it is the plain text. -/
def Argument.setIn (a : Argument) (layout : List Char) : Except LayoutError (List Char) :=
  if layout.isEmpty then a.chars.mapError .unwritable
  else match a with
    | .text s => (Layout.read .text layout).bind fun l => l.setText s
    | .number n => (Layout.read .number layout).bind fun l => l.setInteger n
    | .thing t => .error (.unsuited t.typeName)

end TelephonyAlerts.Template
