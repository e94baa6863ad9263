import TelephonyAlerts.Alert.Audience
import TelephonyAlerts.Data.Assoc

/-!
# The device

What the host knows of the device at one time: its lines and phones, its users, the
stored preferences and the clock. All of it can change between two operations.
-/

namespace TelephonyAlerts

open TelephonyAlerts.Data TelephonyAlerts.Number

/-- A line as the directory of subscriptions describes it. The directory may answer
with a line other than the one it was asked for. -/
structure Line where
  id : Int
  name : String
  tint : Option Int := none
  active : Bool := true
  deriving DecidableEq, Repr

structure Phone where
  /-- `none` while the number is unknown, empty where there is none. -/
  number : Option String := none
  count : Int := 0
  simLoaded : Bool := true
  countsMail : Bool := false
  vibrates : Bool := false
  deriving DecidableEq, Repr

inductive Service
  | inService
  | outOfService
  | emergencyOnly
  | powerOff
  deriving DecidableEq, Repr

namespace Service

def name : Service → String
  | inService => "IN_SERVICE"
  | outOfService => "OUT_OF_SERVICE"
  | emergencyOnly => "EMERGENCY_ONLY"
  | powerOff => "POWER_OFF"

def text : Service → String
  | inService => "in_service"
  | outOfService => "out_of_service"
  | emergencyOnly => "emergency_only"
  | powerOff => "power_off"

instance : Vocabulary Service where
  label := "ServiceState"
  members := [inService, outOfService, emergencyOnly, powerOff]
  name := name
  value s := .text s.text

end Service

structure Device where
  now : Calendar.Moment
  lines : Assoc Int Line := []
  phones : Assoc Int Phone := []
  preferences : Assoc String String := []
  profiles : List Profile := []
  defaultLine : Int
  choosesOperator : Bool := true
  showsTransients : Bool := true

namespace Device

/-- How many lines are active. The host counts them itself; here it counts those of its
directory. -/
def activeLines (d : Device) : Nat := d.lines.countP fun e => e.2.active

/-! ## The chosen operator -/

/-- What the operator of a line is stored under by name. Only a line whose number can be
written has such a key. -/
def operatorNameKey (line : Int) : Except TooManyDigits String :=
  (written line).map ("network_selection_name_key" ++ ·)

/-- What the operator of a line is stored under by number. -/
def operatorNumberKey (line : Int) : Except TooManyDigits String :=
  (written line).map ("network_selection_key" ++ ·)

/-- The operator chosen for a line, by name or else by number; empty where none is.
`preference` answers with an empty text where nothing is stored under a key. -/
def chosenOperator {m : Type → Type} [Monad m]
    (preference : Except TooManyDigits String → m String) (line : Int) : m String := do
  let name ← preference (operatorNameKey line)
  if name.isEmpty then preference (operatorNumberKey line) else pure name

/-- A stored preference, or an empty text. -/
def preference (d : Device) (key : String) : String := (d.preferences.get? key).getD ""

def selectionOf (d : Device) (line : Int) : Except TooManyDigits String :=
  chosenOperator (fun key => key.map d.preference) line

/-- The operator chosen for a line; a line without keys has none. -/
def operatorOf (d : Device) (line : Int) : String := (d.selectionOf line).toOption.getD ""

/-! ## Changes -/

inductive Change
  | now (t : Calendar.Moment)
  | phone (line : Int) (p : Phone)
  | noPhone (line : Int)
  | line (key : Int) (l : Line)
  | noLine (key : Int)
  | preference (key value : String)
  | noPreference (key : String)
  | profiles (ps : List Profile)
  | defaultLine (line : Int)
  | choosesOperator (b : Bool)

def apply (d : Device) : Change → Device
  | .now t => { d with now := t }
  | .phone line p => { d with phones := d.phones.insert line p }
  | .noPhone line => { d with phones := d.phones.erase line }
  | .line key l => { d with lines := d.lines.insert key l }
  | .noLine key => { d with lines := d.lines.erase key }
  | .preference key value => { d with preferences := d.preferences.insert key value }
  | .noPreference key => { d with preferences := d.preferences.erase key }
  | .profiles ps => { d with profiles := ps }
  | .defaultLine line => { d with defaultLine := line }
  | .choosesOperator b => { d with choosesOperator := b }

end Device

end TelephonyAlerts
