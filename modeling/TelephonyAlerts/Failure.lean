import TelephonyAlerts.Alert.Topic
import TelephonyAlerts.Calendar.Moment.Reader
import TelephonyAlerts.Decision.Sampling
import TelephonyAlerts.Decision.Sink
import TelephonyAlerts.Settings.Basic
import TelephonyAlerts.Text.Utf8
import TelephonyAlerts.Yaml.Token

/-!
# Failures

Everything that can end an operation early, by cause, with the message for each cause.
Callers treat failures of one family alike, whatever their cause.
-/

namespace TelephonyAlerts

open TelephonyAlerts.Data TelephonyAlerts.Number

/-! ## Methods of the collaborators -/

/-- What an operation asks of the collaborators, by the methods that may fail. The rest
of what it needs of a device (the parts of a phone, the lines that are active, the
default line, whether an operator can be chosen, the time) is read without a call: were
such a read to fail, the operation would leave what it leaves where the call next to it
fails. -/
inductive Method
  | present
  | cancel
  | showTransient
  | cancelTransient
  | phone
  | line
  | preference
  | profiles
  | record
  deriving DecidableEq, Repr

namespace Method

def all : List Method :=
  [present, cancel, showTransient, cancelTransient, phone, line, preference, profiles, record]

def name : Method → String
  | present => "present"
  | cancel => "cancel"
  | showTransient => "show_transient"
  | cancelTransient => "cancel_transient"
  | phone => "phone"
  | line => "resolve"
  | preference => "get_string"
  | profiles => "list_profiles"
  | record => "emit"

end Method

/-! ## Things that could not be found -/

/-- A phone, a line or another thing that could not be found. What it was asked for by
can be written. -/
structure Unresolved where
  kind : String
  ref : Datum
  writable : ref.isWritable = true
  deriving Repr

def Unresolved.message (u : Unresolved) : String := s!"Unresolved {u.kind}: {u.ref.plain}"

/-! ## Causes -/

inductive Failure
  | settings (cause : SettingsError)
  | form (cause : FormError)
  | encoding (cause : Text.EncodingError)
  | markup (cause : Yaml.Fault)
  | render (cause : Template.RenderError)
  | unresolved (cause : Unresolved)
  /-- An integer that stands in a text has too many digits to be written. -/
  | unwritable (cause : TooManyDigits)
  | collaborator (method : Method)
  | sampling (cause : Number.Binary64.Unbounded)
  | notBlockable (topic : Topic)
  | notAMember (cause : NotAMember)
  | unknownName (name : String)
  | moment (cause : Calendar.MomentError)
  | capacity (cause : CapacityError)

namespace Failure

def message : Failure → String
  | settings cause => cause.message
  | form cause => cause.message
  | encoding cause => cause.message
  | markup cause => cause.message
  | render cause => cause.message
  | unresolved cause => cause.message
  | unwritable cause => cause.message
  | collaborator method => method.name ++ " failed"
  | sampling cause => cause.message
  | notBlockable topic => "Not a blacklist category: " ++ topic.described
  | notAMember cause => cause.message
  | unknownName name => Text.quoted name
  | moment cause => cause.message
  | capacity cause => cause.message

def ofRead : ReadError → Failure
  | .form cause => form cause
  | .refused cause => settings cause

def ofWording (cause : WordingError) : Failure := settings (.wording cause)

/-- The failure to find a thing. One that is asked for by what cannot be written fails
where the message about it would be made. -/
def notFound (kind : String) (ref : Datum) : Failure :=
  if writable : ref.isWritable = true then unresolved ⟨kind, ref, writable⟩ else unwritable {}

end Failure

def require {α : Type} (value : Option α) (kind : String) (ref : Datum) : Except Failure α :=
  match value with
  | some a => .ok a
  | none => .error (.notFound kind ref)

/-! ## Families -/

/-- What went wrong, broadly. -/
inductive Family
  | settings
  | unresolved
  | collaborator
  -- A value of the right kind is not acceptable.
  | value
  -- Nothing is held under a name.
  | key
  -- A value is of the wrong kind.
  | kind
  -- A value has no member of a name.
  | member
  -- A position lies beyond the end.
  | position
  -- A number is too large.
  | magnitude
  -- Bytes are not text.
  | encoding
  deriving DecidableEq, Repr

def FormError.family : FormError → Family
  | .noMember .. => .member
  | .notANumber _ => .kind
  | .notNumeric _ => .value
  | .beyondFloat => .magnitude
  | .tooManyDigits _ => .value

def Yaml.Fault.family : Yaml.Fault → Family
  | .malformed => .settings
  | .noCharacter n => if n < wordLimit then .value else .magnitude
  | .noDigits _ | .tooManyDigits _ | .range _ => .value

def Template.LayoutError.family : Template.LayoutError → Family
  | .noSuchCharacter | .numberBeyondWord | .numberBeyondFloat => .magnitude
  | .unsuited _ => .kind
  | _ => .value

def Template.RenderError.family : Template.RenderError → Family
  | .noArgument _ => .key
  | .noPositional _ | .beyondEnd => .position
  | .positionNotNumber | .notIndexable _ => .kind
  | .noMember .. | .unseen _ => .member
  | .layout cause => cause.family
  | _ => .value

def Failure.family : Failure → Family
  | settings _ => .settings
  | form cause => cause.family
  | encoding _ => .encoding
  | markup cause => cause.family
  | render cause => cause.family
  | unresolved _ => .unresolved
  | collaborator _ => .collaborator
  | sampling .nan => .value
  | sampling .infinite => .magnitude
  | unwritable _ | notBlockable _ | notAMember _ | moment _ => .value
  | unknownName _ => .key
  | capacity .negative => .value
  | capacity .beyondWord => .magnitude

end TelephonyAlerts
