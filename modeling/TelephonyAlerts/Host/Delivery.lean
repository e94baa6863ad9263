import TelephonyAlerts.Host.Operation

/-!
# Delivery

One alert goes to every user of its audience, in the order in which the device lists
them; a cancellation goes to all users at once. The address is the one asked for,
whatever the alert says. Where the tap of an alert is for the owner alone, other users
get the alert without it.
-/

namespace TelephonyAlerts.Delivery

variable {σ : Type}

def personal (alert : Alert) (ownerOnlyAction : Bool) (p : Profile) : Alert :=
  if ownerOnlyAction && !p.isOwner then { alert with contentAction := none } else alert

/-- Shows an alert to the profiles of a list that its audience admits; answers with
their handles. -/
def presentTo (address : Address) (alert : Alert) (ownerOnlyAction : Bool) :
    List Profile → Op σ (List Int)
  | [] => return []
  | p :: rest => do
    if address.topic.audience.admits p then
      Op.present address (personal alert ownerOnlyAction p) p.handle
      let handles ← presentTo address alert ownerOnlyAction rest
      return p.handle :: handles
    else
      Op.log .debug .delivery s!"[{address.topic.name}] Skipping user {p.handle}"
      presentTo address alert ownerOnlyAction rest

/-- Shows an alert to its audience; answers with the handles of those who got it. -/
def present (address : Address) (alert : Alert) (ownerOnlyAction : Bool := false) :
    Op σ (List Int) := do
  presentTo address { alert with address } ownerOnlyAction (← Op.profiles)

def cancel (address : Address) : Op σ Unit := Op.cancel address allUsers

end TelephonyAlerts.Delivery
