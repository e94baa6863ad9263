import TelephonyAlerts.Decision.Record

/-!
# Sinks

Where records of decisions go: to a callback, into a buffer that keeps the latest, or
nowhere.
-/

namespace TelephonyAlerts

inductive Sink
  | callback
  | buffer (capacity : Option Nat) (records : List Record)
  | discard
  deriving DecidableEq, Repr

inductive CapacityError
  | negative
  | beyondWord
  deriving DecidableEq, Repr

def CapacityError.message : CapacityError → String
  | .negative => "maxlen must be non-negative"
  | .beyondWord => "Python int too large to convert to C ssize_t"

namespace Sink

def keepLast {α : Type} (capacity : Option Nat) (xs : List α) : List α :=
  match capacity with
  | some n => xs.drop (xs.length - n)
  | none => xs

/-- An empty buffer for a number of records, or for all of them. -/
def makeBuffer : Option Int → Except CapacityError Sink
  | none => .ok (.buffer none [])
  | some n =>
    if n < -(Nat.pow 2 63) ∨ Nat.pow 2 63 ≤ n then .error .beyondWord
    else if n < 0 then .error .negative
    else .ok (.buffer (some n.toNat) [])

def add (r : Record) : Sink → Sink
  | buffer capacity records => .buffer capacity (keepLast capacity (records ++ [r]))
  | s => s

def records : Sink → List Record
  | buffer _ records => records
  | _ => []

def clear : Sink → Sink
  | buffer capacity _ => .buffer capacity []
  | s => s

end Sink

end TelephonyAlerts
