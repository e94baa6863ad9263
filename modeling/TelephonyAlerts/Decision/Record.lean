import TelephonyAlerts.Alert.Topic

/-!
# Decisions

A decision says what was done about an alert and why, for whoever wants to explain it
later.
-/

namespace TelephonyAlerts

inductive Outcome
  | presented
  | cancelled
  | skipped
  | deferred
  deriving DecidableEq, Repr

namespace Outcome

def name : Outcome → String
  | presented => "PRESENTED"
  | cancelled => "CANCELLED"
  | skipped => "SKIPPED"
  | deferred => "DEFERRED"

def text : Outcome → String
  | presented => "presented"
  | cancelled => "cancelled"
  | skipped => "skipped"
  | deferred => "deferred"

instance : Data.Vocabulary Outcome where
  label := "DecisionOutcome"
  members := [presented, cancelled, skipped, deferred]
  name := name
  value o := .text o.text

end Outcome

structure Decision where
  topic : Topic
  outcome : Outcome
  line : Option Int := none
  /-- Why nothing was shown. -/
  reason : Option String := none
  recipients : List Int := []
  deriving DecidableEq, Repr

/-- A decision with the time it was made at. -/
structure Record where
  decision : Decision
  time : Calendar.Moment
  deriving DecidableEq, Repr

end TelephonyAlerts
