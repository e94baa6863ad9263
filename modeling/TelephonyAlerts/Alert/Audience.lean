import TelephonyAlerts.Alert.Topic

/-!
# Audiences

Which users of the device an alert is for. Managed profiles are never told. Voicemail
is not for users who may not place calls, and blocked calls and messages concern the
owner alone.
-/

namespace TelephonyAlerts

/-- What a user may be kept from. -/
inductive Restriction
  | outgoingCalls
  deriving DecidableEq, Repr

instance : Data.Vocabulary Restriction where
  label := "RestrictionKind"
  members := [.outgoingCalls]
  name _ := "DISALLOW_OUTGOING_CALLS"
  value _ := .text "no_outgoing_calls"

structure Profile where
  handle : Int
  isOwner : Bool := false
  isManaged : Bool := false
  restrictions : List Restriction := []
  deriving DecidableEq, Repr

structure Audience where
  excludesManaged : Bool := true
  excludedRestriction : Option Restriction := none
  ownerOnly : Bool := false
  deriving DecidableEq, Repr

def Audience.admits (a : Audience) (p : Profile) : Bool :=
  !(a.ownerOnly && !p.isOwner) && !(a.excludesManaged && p.isManaged) &&
    (a.excludedRestriction.all fun r => !p.restrictions.contains r)

def Topic.audience : Topic → Audience
  | .voicemail => { excludedRestriction := some .outgoingCalls }
  | .blockedCall | .blockedMessage => { ownerOnly := true }
  | _ => {}

end TelephonyAlerts
