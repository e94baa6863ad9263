import TelephonyAlerts.Number.Binary64

/-!
# Sampling

Decisions are recorded only where tracing is on, and then a share of them: out of a
thousand equally likely numbers those below the rate times a thousand. No number is
drawn where the rate alone decides.
-/

namespace TelephonyAlerts

open TelephonyAlerts.Number

structure Sampling where
  enabled : Bool := false
  rate : Binary64 := .one
  deriving DecidableEq, Repr

/-- Random numbers: those to come and the bounds of those already drawn. -/
structure Draws where
  upcoming : List Int := []
  bounds : List Nat := []
  deriving DecidableEq, Repr

/-- Draws a number below a bound; zero once those to come are used up. -/
def Draws.next (d : Draws) (bound : Nat) : Int × Draws :=
  (d.upcoming.headD 0, ⟨d.upcoming.tail, d.bounds ++ [bound]⟩)

namespace Sampling

/-- The number of values that a draw decides between. -/
def resolution : Nat := 1000

/-- The draws below this number are recorded. -/
def threshold (s : Sampling) : Except Binary64.Unbounded Int :=
  (s.rate.scale resolution).truncate

def selects (s : Sampling) (d : Draws) : Except Binary64.Unbounded Bool × Draws :=
  if !s.enabled then (.ok false, d)
  else if s.rate.isAtLeastOne then (.ok true, d)
  else
    -- The number is drawn even where there is no threshold.
    let (n, d) := d.next resolution
    (s.threshold.map fun t => decide (n < t), d)

end Sampling

def Number.Binary64.Unbounded.message : Binary64.Unbounded → String
  | .nan => "cannot convert float NaN to integer"
  | .infinite => "cannot convert float infinity to integer"

end TelephonyAlerts
