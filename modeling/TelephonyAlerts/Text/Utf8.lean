import TelephonyAlerts.Text.Quoted

/-!
# Text from bytes

The bytes of a file are text in UTF-8. What cannot be text is reported with its place.
A sequence that the end of the file cuts short is met only after all else was read, so
its place is counted from its own start.
-/

namespace TelephonyAlerts.Text

inductive EncodingFault
  | start
  | continuation
  | truncated
  deriving DecidableEq, Repr

def EncodingFault.reason : EncodingFault → String
  | start => "invalid start byte"
  | continuation => "invalid continuation byte"
  | truncated => "unexpected end of data"

/-- Bytes that cannot be text: the first of them, how many there are and where. -/
structure EncodingError where
  fault : EncodingFault
  byte : UInt8
  position : Nat
  length : Nat
  deriving DecidableEq, Repr

def EncodingError.message (e : EncodingError) : String :=
  let place :=
    if e.length = 1 then
      s!"byte 0x{String.ofList (hex 2 e.byte.toNat)} in position {e.position}"
    else s!"bytes in position {e.position}-{e.position + e.length - 1}"
  s!"'utf-8' codec can't decode {place}: {e.fault.reason}"

namespace Utf8

/-- How many bytes follow a first byte, and the range of the second one. -/
def shape? (b : UInt8) : Option (Nat × UInt8 × UInt8) :=
  if b < 0x80 then some (0, 0x80, 0xBF)
  else if b < 0xC2 then none
  else if b < 0xE0 then some (1, 0x80, 0xBF)
  else if b = 0xE0 then some (2, 0xA0, 0xBF)
  else if b = 0xED then some (2, 0x80, 0x9F)
  else if b < 0xF0 then some (2, 0x80, 0xBF)
  else if b = 0xF0 then some (3, 0x90, 0xBF)
  else if b < 0xF4 then some (3, 0x80, 0xBF)
  else if b = 0xF4 then some (3, 0x80, 0x8F)
  else none

/-- The bits that a first byte adds to the number of its character. -/
def leadBits (following : Nat) (b : UInt8) : Nat :=
  match following with
  | 0 => b.toNat
  | 1 => b.toNat % 0x20
  | 2 => b.toNat % 0x10
  | _ => b.toNat % 0x08

/-- The number of a character that `following` more bytes end; the next of them lies
between `low` and `high`. A fault comes with the number of bytes before it. -/
def tail : Nat → UInt8 → UInt8 → Nat → Nat → List UInt8 →
    Except (EncodingFault × Nat) (Nat × List UInt8)
  | 0, _, _, _, n, bs => .ok (n, bs)
  | _ + 1, _, _, seen, _, [] => .error (.truncated, seen)
  | following + 1, low, high, seen, n, b :: bs =>
    if low ≤ b ∧ b ≤ high then tail following 0x80 0xBF (seen + 1) (n * 0x40 + b.toNat % 0x40) bs
    else .error (.continuation, seen)

def next (b : UInt8) (bs : List UInt8) : Except (EncodingFault × Nat) (Nat × List UInt8) :=
  match shape? b with
  | none => .error (.start, 1)
  | some (following, low, high) => tail following low high 1 (leadBits following b) bs

theorem length_tail {k : Nat} {low high : UInt8} {seen n : Nat} {bs : List UInt8}
    {r : Nat × List UInt8} (h : tail k low high seen n bs = .ok r) : r.2.length ≤ bs.length := by
  fun_induction tail k low high seen n bs with
  | case1 => cases h; exact Nat.le_refl _
  | case2 => cases h
  | case3 _ _ _ _ _ _ _ _ ih => exact Nat.le_succ_of_le (ih h)
  | case4 => cases h

theorem length_next {b : UInt8} {bs : List UInt8} {r : Nat × List UInt8} (h : next b bs = .ok r) :
    r.2.length ≤ bs.length := by
  unfold next at h
  split at h
  · cases h
  · exact length_tail h

/-- Whether a file ends in the first two bytes of what would be half of a character
outside the basic plane. -/
def endsInHalf : List UInt8 → Bool
  | [0xED, b] => 0xA0 ≤ b && b ≤ 0xBF
  | _ => false

/-- The text that bytes hold, the first of which stands at a position of the file. -/
def decodeFrom (position : Nat) (bytes : List UInt8) : Except EncodingError (List Char) :=
  match bytes with
  | [] => .ok []
  | b :: bs =>
    match _ : next b bs with
    | .ok (n, rest) =>
      (decodeFrom (position + (b :: bs).length - rest.length) rest).map (Char.ofNat n :: ·)
    | .error (fault, length) =>
      -- What the end of the file cuts short is met after all else was read.
      let atEnd := fault = .truncated ∨ endsInHalf (b :: bs)
      .error ⟨fault, b, if atEnd then 0 else position, length⟩
  termination_by bytes.length
  decreasing_by
    have : rest.length ≤ bs.length := length_next ‹_›
    simp only [List.length_cons]
    omega

end Utf8

def decode (bytes : List UInt8) : Except EncodingError (List Char) := Utf8.decodeFrom 0 bytes

end TelephonyAlerts.Text
