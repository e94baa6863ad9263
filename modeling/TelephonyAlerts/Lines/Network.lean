import TelephonyAlerts.Host.Delivery

/-!
# Alerts about the network

The alert that the chosen operator is unavailable is shown once when service is lost
with an operator chosen, and cancelled once when that is over; a latch tells whether it
stands. The alert about data lost while roaming is shown and cancelled as told.
-/

namespace TelephonyAlerts

open TelephonyAlerts.Data TelephonyAlerts.Template

namespace Operator

def alert (w : Wording) (operator : String) : Except RenderError Alert := do
  let title ← w.text .networkSelectionTitle
  let body ← w.text .networkSelectionText [("operator", .text operator.toList)]
  return {
    address := { topic := .operatorUnavailable }
    title, body
    contentAction := some { kind := .networkOperatorSettings }
    ongoing := true }

def decision (line : Int) (outcome : Outcome) (recipients : List Int := []) : Decision :=
  { topic := .operatorUnavailable, outcome, line := some line, recipients }

/-- Shows the alert and closes the latch, which stays open if the showing fails. -/
def raise (c : Context) (line : Int) (operator : String) : Op Bool Unit := do
  let a ← Op.ofRender (alert c.wording operator)
  let recipients ← Delivery.present { topic := .operatorUnavailable } a true
  Op.modifyOwn fun _ => true
  Op.record c.sampling (decision line .presented recipients)

/-- Cancels the alert and opens the latch, which stays closed if the cancellation fails. -/
def lower (c : Context) (line : Int) : Op Bool Unit := do
  Delivery.cancel { topic := .operatorUnavailable }
  Op.modifyOwn fun _ => false
  Op.record c.sampling (decision line .cancelled)

/-- Follows a service state. Nothing happens where no operator can be chosen or there is
no default line. -/
def update (c : Context) (service : Service) : Op Bool Unit := do
  let d ← Op.device
  if d.choosesOperator then
    let line := d.defaultLine
    if line < 0 then
      Op.log .debug .network
        s!"Network selection state={service.text} not updated, invalid subId {line}"
    else
      let operator ← Device.chosenOperator Op.preference line
      Op.log .debug .network
        s!"[sub {line}] Network selection state={service.text} selection={Text.quoted operator}"
      let shown ← Op.own
      if service = .outOfService ∧ operator ≠ "" then
        if !shown then raise c line operator
      else if shown then lower c line

end Operator

namespace Roaming

def alert (w : Wording) : Except RenderError Alert := do
  let title ← w.text .roamingTitle
  let body ← w.text .roamingReenable
  return {
    address := { topic := .roamingDisconnected }
    title, body
    contentAction := some { kind := .mobileNetworkSettings } }

def announce {σ : Type} (c : Context) : Op σ Unit := do
  let a ← Op.ofRender (alert c.wording)
  let recipients ← Delivery.present { topic := .roamingDisconnected } a true
  Op.record c.sampling { topic := .roamingDisconnected, outcome := .presented, recipients }

def withdraw {σ : Type} (c : Context) : Op σ Unit := do
  Delivery.cancel { topic := .roamingDisconnected }
  Op.record c.sampling { topic := .roamingDisconnected, outcome := .cancelled }

end Roaming

end TelephonyAlerts
