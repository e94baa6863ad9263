import TelephonyAlerts.Calendar.Date
import TelephonyAlerts.Number.Decimal
import TelephonyAlerts.Number.Reader

/-!
# Tokens

The parts of a YAML text. The indentation of block collections is told by tokens where
they start and end, so nothing after the tokens looks at columns.

Most texts without a value are simply not YAML. A few are, but hold a scalar that
stands for nothing: a character that does not exist, a number without digits or with too
many, or a date that no calendar has.
-/

namespace TelephonyAlerts.Yaml

open TelephonyAlerts.Number

/-! ## Faults -/

inductive Fault
  | malformed
  /-- An escape by a number that no character has. -/
  | noCharacter (number : Nat)
  /-- A number of a base without a digit. -/
  | noDigits (base : Nat)
  /-- A decimal number of more digits than are ever read. -/
  | tooManyDigits (count : Nat)
  | range (cause : Calendar.RangeError)
  deriving DecidableEq, Repr

namespace Fault

/-- The numbers from here on are too large to be asked about. -/
def wordLimit : Nat := Nat.pow 2 31

def message : Fault → String
  | malformed => "not YAML"
  | noCharacter n =>
    if n < wordLimit then "chr() arg not in range(0x110000)"
    else "Python int too large to convert to C int"
  | noDigits base => s!"invalid literal for int() with base {base}: ''"
  | tooManyDigits count =>
    s!"Exceeds the limit ({digitLimit} digits) for integer string conversion: " ++
      s!"value has {count} digits; use sys.set_int_max_str_digits() to increase the limit"
  | range cause => cause.message

end Fault

/-- The number that decimal digits write. -/
def decimal (ds : List Char) : Except Fault Nat :=
  if digitLimit < ds.length then .error (.tooManyDigits ds.length) else .ok (natOfDigits ds)

/-! ## What a text is made of -/

/-- What a directive says about the document that follows it. -/
inductive Directive
  | version (major minor : Nat)
  | handle (handle expansion : String)
  | reserved
  deriving DecidableEq, Repr

/-- A tag as written: behind a handle, or whole. -/
structure WrittenTag where
  handle : Option String
  suffix : String
  deriving DecidableEq, Repr

inductive Token
  | directive (d : Directive)
  | documentStart
  | documentEnd
  | blockSequenceStart
  | blockMappingStart
  | blockEnd
  | flowSequenceStart
  | flowSequenceEnd
  | flowMappingStart
  | flowMappingEnd
  /-- A hyphen before an item. -/
  | blockEntry
  /-- A comma between items. -/
  | flowEntry
  | key
  | value
  | alias (name : String)
  | anchor (name : String)
  | tag (t : WrittenTag)
  | scalar (text : String) (plain : Bool)
  deriving DecidableEq, Repr

end TelephonyAlerts.Yaml
