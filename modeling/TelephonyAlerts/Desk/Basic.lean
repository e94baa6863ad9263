import TelephonyAlerts.Blocked.Notice
import TelephonyAlerts.Lines.Forwarding
import TelephonyAlerts.Lines.Network
import TelephonyAlerts.Lines.Voicemail

/-!
# The desk

The desk holds all that is remembered from one operation to the next: what was blocked,
which indicators are to be seen and whether the alert about the operator stands. Its
settings may change at any time; whether the device can place calls and the wording
are those of the settings that it was made from.
-/

namespace TelephonyAlerts

open TelephonyAlerts.Data

structure Desk where
  settings : Settings
  /-- Whether the device could place calls when the desk was made. -/
  voiceCapable : Bool
  /-- The wording of the settings that the desk was made from. -/
  wording : Wording
  history : History := {}
  voicemail : Visibility := []
  forwarding : Visibility := []
  operatorShown : Bool := false
  deriving DecidableEq, Repr

namespace Desk

def ofSettings (s : Settings) : Except WordingError Desk :=
  s.wording.map fun wording => { settings := s, voiceCapable := s.voiceCapable, wording }

def context (d : Desk) : Context := ⟨d.wording, d.settings.tracing⟩

/-! ## What can be asked of it -/

/-- What was blocked, newest first, for a topic that is about blocked calls or messages. -/
def blockedEvents (d : Desk) (t : Topic) : Except Failure (List BlockedEvent) :=
  (Blocked.mediumOf t).map d.history.events

def showsVoicemail (d : Desk) (line : Int) : Bool := d.voicemail.shows line

def showsForwarding (d : Desk) (line : Int) : Bool := d.forwarding.shows line

/-! ## Changing its settings -/

inductive Change
  | voiceCapable (b : Bool)
  | tellsBlocked (b : Bool)
  | tracing (enabled : Bool)
  | strings (replacements : Assoc String String)

def changed (s : Settings) : Change → Settings
  | .voiceCapable b => { s with voiceCapable := b }
  | .tellsBlocked b => { s with tellsBlocked := b }
  | .tracing enabled => { s with tracing := { s.tracing with enabled } }
  | .strings replacements => { s with strings := replacements }

def apply (d : Desk) (c : Change) : Desk := { d with settings := changed d.settings c }

end Desk

end TelephonyAlerts
