import TelephonyAlerts.Blocked.Summary
import TelephonyAlerts.Host.Delivery

/-!
# Telling of what was blocked

Every blocked call or message enters the history before its alert is made, so that a
failure to tell of it does not lose it.
-/

namespace TelephonyAlerts.Blocked

/-- The medium that a topic is about, or the failure of a topic that is about none. -/
def mediumOf (t : Topic) : Except Failure Medium :=
  match t.medium? with
  | some m => .ok m
  | none => .error (.notBlockable t)

def current (w : Wording) (m : Medium) : Op History (Option Alert) := do
  Op.ofRender ((← Op.own).summary? w (← Op.device).now m)

/-- Enters an event and makes the alert that tells of it and of those before it. -/
def enter (w : Wording) (m : Medium) (event : BlockedEvent) : Op History Alert := do
  -- The event is kept even if the alert cannot be made.
  let older := (← Op.own).events m
  Op.modifyOwn (·.push m event)
  Op.ofRender (m.summary w (← Op.device).now event older)

/-- Forgets the events of a medium; answers with their number. -/
def forget (m : Medium) : Op History Nat := do
  let dropped := ((← Op.own).events m).length
  Op.modifyOwn (·.clear m)
  return dropped

/-- An event as it is kept. A caller without a number has an empty one. -/
def event (number : Option String) (time : Calendar.Moment) (matched : MatchKind) : BlockedEvent :=
  ⟨number.getD "", time, matched⟩

/-- Takes note of a blocked call or message and tells of all there are. Where blocked
calls are not told, nothing is kept. -/
def record (c : Context) (tells : Bool) (m : Medium) (number : Option String)
    (time : Calendar.Moment) (matched : MatchKind) : Op History Unit := do
  if !tells then
    Op.log .debug .desk s!"[{m.topic.name}] Blacklist notifications disabled"
    Op.record c.sampling
      { topic := m.topic, outcome := .skipped, reason := some "blacklist_notify_disabled" }
  else
    let alert ← enter c.wording m (event number time matched)
    let recipients ← Delivery.present { topic := m.topic } alert
    Op.record c.sampling { topic := m.topic, outcome := .presented, recipients }

def clearMedium (c : Context) (m : Medium) : Op History Unit := do
  let dropped ← forget m
  Op.log .debug .desk s!"[{m.topic.name}] Cleared {dropped} blocked events"
  Delivery.cancel { topic := m.topic }
  Op.record c.sampling { topic := m.topic, outcome := .cancelled }

def clearSelected (c : Context) (mask : Mask) : Op History Unit :=
  mask.media.forM (clearMedium c)

/-- Forgets the media that a datum selects and withdraws their alerts. A datum that is no
selection is refused before anything is done. -/
def clear (c : Context) (given : Data.Datum) : Op History Unit := do
  clearSelected c (← Op.ofExcept .notAMember (Mask.ofDatum given))

end TelephonyAlerts.Blocked
