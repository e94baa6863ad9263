import TelephonyAlerts.Host.Delivery
import TelephonyAlerts.Lines.Visibility

/-!
# Call forwarding

The indicator of a line whose calls all go elsewhere. It opens settings that only the
owner may change.
-/

namespace TelephonyAlerts.Forwarding

open TelephonyAlerts.Data TelephonyAlerts.Template

/-- The alert for a line. On a device with several lines its name is the title. -/
def alert (w : Wording) (d : Device) (info : Line) : Except RenderError Alert := do
  let title ← if 1 < d.activeLines then pure info.name else w.text .callForwardLabel
  let body ← w.text .callForwardEnabled
  return {
    address := ⟨.callForward, some info.id⟩
    title, body
    contentAction := some { kind := .callForwardSettings, line := some info.id }
    ongoing := true
    color := info.tint }

def log (level : Level) (line : Int) (text : String) : Op Visibility Unit :=
  Op.log level .lines s!"[sub {line}] {text}"

def decision (line : Int) (outcome : Outcome) (reason : Option String := none)
    (recipients : List Int := []) : Decision :=
  { topic := .callForward, outcome, line := some line, reason, recipients }

/-- Shows the indicator of a line, if the directory knows the line. -/
def announce (c : Context) (line : Int) : Op Visibility Unit := do
  match ← Op.resolving (Op.line line) with
  | .error u =>
    log .warning line u.message
    Op.record c.sampling (decision line .skipped (some s!"no_{u.kind}"))
  | .ok info =>
    let a ← Op.ofRender (alert c.wording (← Op.device) info)
    let recipients ← Delivery.present ⟨.callForward, some line⟩ a true
    Op.record c.sampling (decision line .presented none recipients)

def update (c : Context) (line : Int) (visible : Bool) : Op Visibility Unit := do
  log .debug line s!"Call forwarding update to {(Datum.bool visible).shown}"
  Op.modifyOwn (·.insert line visible)
  if visible then announce c line
  else
    Delivery.cancel ⟨.callForward, some line⟩
    Op.record c.sampling (decision line .cancelled)

end TelephonyAlerts.Forwarding
