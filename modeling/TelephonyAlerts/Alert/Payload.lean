import TelephonyAlerts.Alert.Topic

/-!
# Alerts

All that the host needs to show an alert. The host keeps one alert for each user and
address. An alert that belongs to a line is addressed by its topic and the line, so
every line has its own.
-/

namespace TelephonyAlerts

open TelephonyAlerts.Number

/-! ## Addresses -/

/-- Where the host keeps an alert. -/
structure Address where
  topic : Topic
  line : Option Int := none
  deriving DecidableEq, Repr

/-- The tag that the host tells alerts of one topic apart by: the number of the line, if
it can be written. -/
def Address.tag (a : Address) : Except TooManyDigits (Option String) := a.line.mapM written

/-- The user that stands for every user, as a recipient of a cancellation. -/
def allUsers : Int := -1

/-- The line that stands for none in particular. -/
def noLine : Int := -1

/-! ## Actions -/

inductive ActionKind
  | blacklistSettings
  | clearBlacklist
  | unblockNumber
  | dialVoicemail
  | voicemailSettings
  | callForwardSettings
  | networkOperatorSettings
  | mobileNetworkSettings
  deriving DecidableEq, Repr

namespace ActionKind

def all : List ActionKind :=
  [blacklistSettings, clearBlacklist, unblockNumber, dialVoicemail, voicemailSettings,
   callForwardSettings, networkOperatorSettings, mobileNetworkSettings]

def name : ActionKind → String
  | blacklistSettings => "BLACKLIST_SETTINGS"
  | clearBlacklist => "CLEAR_BLACKLIST"
  | unblockNumber => "UNBLOCK_NUMBER"
  | dialVoicemail => "DIAL_VOICEMAIL"
  | voicemailSettings => "VOICEMAIL_SETTINGS"
  | callForwardSettings => "CALL_FORWARD_SETTINGS"
  | networkOperatorSettings => "NETWORK_OPERATOR_SETTINGS"
  | mobileNetworkSettings => "MOBILE_NETWORK_SETTINGS"

def text : ActionKind → String
  | blacklistSettings => "blacklist_settings"
  | clearBlacklist => "clear_blacklist"
  | unblockNumber => "unblock_number"
  | dialVoicemail => "dial_voicemail"
  | voicemailSettings => "voicemail_settings"
  | callForwardSettings => "call_forward_settings"
  | networkOperatorSettings => "network_operator_settings"
  | mobileNetworkSettings => "mobile_network_settings"

instance : Data.Vocabulary ActionKind where
  label := "ActionKind"
  members := all
  name := name
  value k := .text k.text

end ActionKind

structure Action where
  kind : ActionKind
  /-- The text of a button; empty where there is none. -/
  label : String := ""
  /-- What the action is about, such as the number to unblock. -/
  target : Option String := none
  line : Option Int := none
  deriving DecidableEq, Repr

/-! ## Alerts -/

structure Alert where
  address : Address
  title : String
  body : String
  /-- One text for each grouped event, newest first. -/
  lines : List String := []
  /-- How many events are grouped, where more than one is. -/
  groupCount : Option Nat := none
  actionEnabled : Bool := false
  contentAction : Option Action := none
  actions : List Action := []
  dismissAction : Option Action := none
  sound : Bool := false
  vibrate : Bool := false
  ongoing : Bool := false
  color : Option Int := none
  shownAt : Option Calendar.Moment := none
  deriving DecidableEq, Repr

end TelephonyAlerts
