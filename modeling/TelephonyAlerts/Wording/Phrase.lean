/-!
# Phrases

Every text that an alert shows, with the template it is made from unless the settings
replace it.
-/

namespace TelephonyAlerts

inductive Phrase
  | blacklistTitle
  | blacklistCall
  | blacklistCallPrivate
  | blacklistCallUnknown
  | blacklistCallMultiple
  | blacklistMessage
  | blacklistMessagePrivate
  | blacklistMessageUnknown
  | blacklistMessageMultiple
  | blacklistListPrivate
  | blacklistLine
  | unblockNumber
  | voicemailTitle
  | voicemailTitleCount
  | voicemailNoNumber
  | voicemailDial
  | callForwardLabel
  | callForwardEnabled
  | networkSelectionTitle
  | networkSelectionText
  | roamingTitle
  | roamingReenable
  deriving DecidableEq, Repr

namespace Phrase

def all : List Phrase :=
  [blacklistTitle, blacklistCall, blacklistCallPrivate, blacklistCallUnknown,
   blacklistCallMultiple, blacklistMessage, blacklistMessagePrivate, blacklistMessageUnknown,
   blacklistMessageMultiple, blacklistListPrivate, blacklistLine, unblockNumber,
   voicemailTitle, voicemailTitleCount, voicemailNoNumber, voicemailDial, callForwardLabel,
   callForwardEnabled, networkSelectionTitle, networkSelectionText, roamingTitle,
   roamingReenable]

def key : Phrase → String
  | blacklistTitle => "blacklist_title"
  | blacklistCall => "blacklist_call"
  | blacklistCallPrivate => "blacklist_call_private"
  | blacklistCallUnknown => "blacklist_call_unknown"
  | blacklistCallMultiple => "blacklist_call_multiple"
  | blacklistMessage => "blacklist_message"
  | blacklistMessagePrivate => "blacklist_message_private"
  | blacklistMessageUnknown => "blacklist_message_unknown"
  | blacklistMessageMultiple => "blacklist_message_multiple"
  | blacklistListPrivate => "blacklist_list_private"
  | blacklistLine => "blacklist_line"
  | unblockNumber => "unblock_number"
  | voicemailTitle => "voicemail_title"
  | voicemailTitleCount => "voicemail_title_count"
  | voicemailNoNumber => "voicemail_no_number"
  | voicemailDial => "voicemail_dial"
  | callForwardLabel => "call_forward_label"
  | callForwardEnabled => "call_forward_enabled"
  | networkSelectionTitle => "network_selection_title"
  | networkSelectionText => "network_selection_text"
  | roamingTitle => "roaming_title"
  | roamingReenable => "roaming_reenable"

/-- The template that is used unless the settings replace it. -/
def standard : Phrase → String
  | blacklistTitle => "Blacklist"
  | blacklistCall => "Call from {number} blocked"
  | blacklistCallPrivate => "Call from private number blocked"
  | blacklistCallUnknown => "Call from unknown number blocked"
  | blacklistCallMultiple => "{count} calls blocked"
  | blacklistMessage => "Message from {number} blocked"
  | blacklistMessagePrivate => "Message from private number blocked"
  | blacklistMessageUnknown => "Message from unknown number blocked"
  | blacklistMessageMultiple => "{count} messages blocked"
  | blacklistListPrivate => "Private number"
  | blacklistLine => "{identifier}  {time}"
  | unblockNumber => "Unblock number"
  | voicemailTitle => "New voicemail"
  | voicemailTitleCount => "New voicemail ({count})"
  | voicemailNoNumber => "Voicemail number unknown"
  | voicemailDial => "Dial {number}"
  | callForwardLabel => "Call forwarding"
  | callForwardEnabled => "Always forward"
  | networkSelectionTitle => "No service from selected network"
  | networkSelectionText => "Selected network ({operator}) unavailable"
  | roamingTitle => "Data roaming"
  | roamingReenable =>
    "You've lost data connectivity because you left your home network with data roaming turned off."

def ofKey? (s : String) : Option Phrase := all.find? (·.key == s)

theorem mem_all (p : Phrase) : p ∈ all := by cases p <;> decide

theorem ofKey?_key (p : Phrase) : ofKey? p.key = some p := by cases p <;> decide +kernel

theorem key_injective {p q : Phrase} (h : p.key = q.key) : p = q :=
  Option.some.inj ((ofKey?_key p).symm.trans (h ▸ ofKey?_key q))

end Phrase

end TelephonyAlerts
