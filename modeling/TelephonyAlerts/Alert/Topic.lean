import TelephonyAlerts.Data.Datum

/-!
# Topics

What an alert is about. The host addresses alerts by the number of their topic, so the
numbers are fixed.
-/

namespace TelephonyAlerts

inductive Topic
  | mmi
  | networkSelection
  | voicemail
  | callForward
  | roamingDisconnected
  | operatorUnavailable
  | blockedCall
  | blockedMessage
  deriving DecidableEq, Repr

namespace Topic

def all : List Topic :=
  [mmi, networkSelection, voicemail, callForward, roamingDisconnected, operatorUnavailable,
   blockedCall, blockedMessage]

def id : Topic → Nat
  | mmi => 1
  | networkSelection => 2
  | voicemail => 3
  | callForward => 4
  | roamingDisconnected => 5
  | operatorUnavailable => 6
  | blockedCall => 7
  | blockedMessage => 8

def name : Topic → String
  | mmi => "MMI"
  | networkSelection => "NETWORK_SELECTION"
  | voicemail => "VOICEMAIL"
  | callForward => "CALL_FORWARD"
  | roamingDisconnected => "DATA_DISCONNECTED_ROAMING"
  | operatorUnavailable => "SELECTED_OPERATOR_FAIL"
  | blockedCall => "BLACKLISTED_CALL"
  | blockedMessage => "BLACKLISTED_MESSAGE"

def ofName? (s : String) : Option Topic := all.find? (·.name == s)

/-- A topic in a message, by name and number. -/
def described (t : Topic) : String := s!"<AlertCategory.{t.name}: {t.id}>"

theorem id_injective {s t : Topic} (h : s.id = t.id) : s = t := by
  cases s <;> cases t <;> first | rfl | exact absurd h (by decide)

instance : Data.Vocabulary Topic where
  label := "AlertCategory"
  members := all
  name := name
  value t := .int t.id

end Topic

end TelephonyAlerts
