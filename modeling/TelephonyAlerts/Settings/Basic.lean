import TelephonyAlerts.Data.Datum
import TelephonyAlerts.Decision.Sampling
import TelephonyAlerts.Wording

/-!
# Settings

What the owner of a device can set, and why settings are refused.
-/

namespace TelephonyAlerts

open TelephonyAlerts.Data TelephonyAlerts.Number

structure Settings where
  voiceCapable : Bool := true
  tellsBlocked : Bool := true
  tracing : Sampling := {}
  /-- Templates by the key of the phrase that they replace. -/
  strings : Assoc String String := []
  deriving DecidableEq, Repr

def Settings.wording (s : Settings) : Except WordingError Wording :=
  Wording.ofReplacements s.strings

inductive SettingsError
  | fileMissing (path : String)
  | notMarkup (path : String)
  | notAMap (path : String)
  | rateOutOfRange (rate : Binary64)
  | wording (cause : WordingError)
  deriving DecidableEq, Repr

def SettingsError.message : SettingsError → String
  | .fileMissing path => "File not found: " ++ path
  | .notMarkup path => "Invalid YAML in " ++ path
  | .notAMap path => "Expected a mapping at top level of " ++ path
  | .rateOutOfRange rate => "trace.sample_rate must be 0.0-1.0, got " ++ rate.text
  | .wording cause => cause.message

/-- Why a datum does not have the form that settings need. -/
inductive FormError
  /-- A datum of a kind that has no such member stands for a map. -/
  | noMember (kind member : String)
  | notANumber (kind : String)
  | notNumeric (text : String)
  | beyondFloat
  | tooManyDigits (cause : TooManyDigits)
  deriving DecidableEq, Repr

def FormError.message : FormError → String
  | .noMember kind member => s!"'{kind}' object has no attribute '{member}'"
  | .notANumber kind => s!"float() argument must be a string or a real number, not '{kind}'"
  | .notNumeric text => "could not convert string to float: " ++ Text.quoted text
  | .beyondFloat => "int too large to convert to float"
  | .tooManyDigits cause => cause.message

/-- Why data does not give settings: they are refused, or a datum has not the form that
they need. -/
inductive ReadError
  | form (cause : FormError)
  | refused (cause : SettingsError)
  deriving DecidableEq, Repr

end TelephonyAlerts
