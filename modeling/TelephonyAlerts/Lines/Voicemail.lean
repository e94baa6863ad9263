import TelephonyAlerts.Host.Delivery
import TelephonyAlerts.Lines.Visibility

/-!
# Waiting voicemail

A line's indicator follows its last update. What cannot be shown yet, because the
phone, the line or the number is not known, is left for a later refresh.
-/

namespace TelephonyAlerts.Voicemail

open TelephonyAlerts.Data TelephonyAlerts.Template

/-- The alert for a line: its title counts the mail where the network does; it dials
the voicemail number, or opens the voicemail settings where there is none. On a device
with several lines the line's name stands in it. -/
def alert (w : Wording) (d : Device) (line : Int) (phone : Phone) (info : Line) (sound : Bool) :
    Except RenderError Alert := do
  let title ←
    if phone.countsMail then w.text .voicemailTitleCount [("count", .number phone.count)]
    else w.text .voicemailTitle
  let number := phone.number.getD ""
  let body ←
    if number.isEmpty then w.text .voicemailNoNumber
    else if 1 < d.activeLines then pure info.name
    else w.text .voicemailDial [("number", .text number.toList)]
  let action : Action :=
    if number.isEmpty then { kind := .voicemailSettings, line := some line }
    else { kind := .dialVoicemail, target := some number, line := some line }
  return {
    address := ⟨.voicemail, some line⟩
    title, body
    contentAction := some action
    sound
    vibrate := phone.vibrates
    ongoing := true
    color := info.tint
    shownAt := some d.now }

def log (level : Level) (line : Int) (text : String) : Op Visibility Unit :=
  Op.log level .lines s!"[sub {line}] {text}"

def decision (line : Int) (outcome : Outcome) (reason : Option String := none)
    (recipients : List Int := []) : Decision :=
  { topic := .voicemail, outcome, line := some line, reason, recipients }

/-- Shows the indicator of a line, as far as the line is known. -/
def announce (c : Context) (line : Int) (sound : Bool) : Op Visibility Unit := do
  let found ← Op.resolving do
    let phone ← Op.phone line
    let info ← Op.line line
    return (phone, info)
  match found with
  | .error u =>
    log .warning line u.message
    Op.record c.sampling (decision line .skipped (some s!"no_{u.kind}"))
  | .ok (phone, info) =>
    -- An empty number is known; only one that is absent may still come.
    if phone.number.isNone && !phone.simLoaded then
      log .debug line "No voicemail number yet, SIM records not loaded"
      Op.record c.sampling (decision line .deferred (some "sim_records_loading"))
    else
      let a ← Op.ofRender (alert c.wording (← Op.device) line phone info sound)
      let recipients ← Delivery.present ⟨.voicemail, some line⟩ a
      Op.record c.sampling (decision line .presented none recipients)

/-- Shows or hides the indicator of a line. A device that cannot place calls has none. -/
def update (c : Context) (voiceCapable : Bool) (line : Int) (visible : Bool)
    (sound : Bool := true) : Op Visibility Unit := do
  if !voiceCapable then
    log .warning line "Message waiting update on non-voice-capable device, ignoring"
    Op.record c.sampling (decision line .skipped (some "not_voice_capable"))
  else
    log .info line s!"Message waiting update to {(Datum.bool visible).shown}"
    -- What was asked for is remembered before anything can fail.
    Op.modifyOwn (·.insert line visible)
    if visible then announce c line sound
    else
      Delivery.cancel ⟨.voicemail, some line⟩
      Op.record c.sampling (decision line .cancelled)

/-- Shows the indicator of a line once more, without sound, if it is to be seen. Where
no line is named and only one is known, that one is meant. -/
def refresh (c : Context) (voiceCapable : Bool) (line : Int) : Op Visibility Unit := do
  let v ← Op.own
  let line := v.meant noLine line
  if v.shows line then update c voiceCapable line true false
  else log .debug line "Refresh skipped, indicator not visible"

end TelephonyAlerts.Voicemail
