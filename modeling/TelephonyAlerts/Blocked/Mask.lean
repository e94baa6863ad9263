import TelephonyAlerts.Alert.Topic

/-!
# Selections of what was blocked

Bit 0 of a selection stands for calls and bit 1 for messages; other bits are kept and
select nothing. An integer gives its bits: a negative one is read in two's complement,
in two bits if it fits, and otherwise in as many as its absolute value has. A selection
of calls or messages that has other bits as well is named by both, so its other bits
must be a number that can be written; every other integer is a selection.
-/

namespace TelephonyAlerts

inductive Medium
  | call
  | message
  deriving DecidableEq, Repr

def Medium.topic : Medium → Topic
  | .call => .blockedCall
  | .message => .blockedMessage

def Topic.medium? : Topic → Option Medium
  | .blockedCall => some .call
  | .blockedMessage => some .message
  | _ => none

theorem Medium.medium?_topic (m : Medium) : m.topic.medium? = some m := by cases m <;> rfl

structure Mask where
  bits : Nat
  deriving DecidableEq, Repr

namespace Mask

def bitLength (n : Nat) : Nat := if n = 0 then 0 else n.log2 + 1

/-- The bits of the selection that an integer stands for. -/
def bitsOf (n : Int) : Nat :=
  if 0 ≤ n then n.toNat
  else if -4 ≤ n then (4 + n).toNat
  else (Nat.pow 2 (bitLength n.natAbs) + n).toNat

/-- Whether bits have a name: none has bits of calls or messages beside others that cannot
be written. -/
def isNameable (bits : Nat) : Bool := bits % 4 == 0 || Number.isWritable (bits - bits % 4)

def ofInt (n : Int) : Except Number.TooManyDigits Mask :=
  if isNameable (bitsOf n) then .ok ⟨bitsOf n⟩ else .error {}

def named : List (Nat × String) := [(0, "NONE"), (1, "CALLS"), (2, "MESSAGES"), (3, "ALL")]

def name? (m : Mask) : Option String := (named.find? (·.1 == m.bits)).map (·.2)

/-- The selection that a datum stands for: an integer of any kind, or another number
that equals a named selection. -/
def ofDatum (d : Data.Datum) : Except Data.NotAMember Mask :=
  match d.integer? with
  | some n => (ofInt n).mapError fun _ => ⟨d, "BlockMask"⟩
  | none =>
    match named.find? fun e => (Data.Datum.int e.1).sameKey d with
    | some e => .ok ⟨e.1⟩
    | none => .error ⟨d, "BlockMask"⟩

def selects (m : Mask) : Medium → Bool
  | .call => m.bits.testBit 0
  | .message => m.bits.testBit 1

def media (m : Mask) : List Medium := [.call, .message].filter m.selects

/-- The selection of the one medium that a topic is about; nothing for other topics. -/
def ofTopic (t : Topic) : Mask :=
  match t.medium? with
  | some .call => ⟨1⟩
  | some .message => ⟨2⟩
  | none => ⟨0⟩

theorem media_ofTopic (m : Medium) : (ofTopic m.topic).media = [m] := by
  cases m <;> decide

example : bitsOf (-1) = 3 ∧ bitsOf (-4) = 0 ∧ bitsOf (-16) = 16 ∧ bitsOf (-17) = 15 := by decide

example : (ofInt (10 ^ 4300)).isOk = true ∧ (ofInt (10 ^ 4300 + 1)).isOk = false := by
  decide +kernel

end Mask

end TelephonyAlerts
