import TelephonyAlerts.Number.Decimal
import TelephonyAlerts.Template.Piece
import TelephonyAlerts.Text.Quoted

/-!
# Why a template cannot be filled in

Every cause of a failed rendering with its message. A template is malformed where it
was read; all other causes depend on the arguments.
-/

namespace TelephonyAlerts.Template

inductive ArgKind
  | text
  | number
  deriving DecidableEq, Repr

def ArgKind.name : ArgKind → String
  | .text => "str"
  | .number => "int"

inductive LayoutError
  | tooManyDigits
  | precisionMissing
  | notALayout (layout : List Char) (kind : ArgKind)
  | groupedTwice
  | notGroupable (separator type : Char)
  | unknownType (type : Char) (kind : ArgKind)
  | signedText (blank : Bool)
  | unsignedZeroText
  | alternateText
  | signAlignedText
  | preciseInteger
  | unsignedZeroInteger
  | signedCharacter
  | alternateCharacter
  | noSuchCharacter
  | numberBeyondWord
  | numberBeyondFloat
  | precisionTooLarge
  /-- What is neither a text nor a number has no layouts. -/
  | unsuited (type : String)
  | unwritable (cause : Number.TooManyDigits)
  deriving DecidableEq, Repr

inductive RenderError
  | malformed (cause : Malformed)
  | noArgument (name : List Char)
  | noPositional (index : Nat)
  | beyondEnd
  | positionNotNumber
  | notIndexable (owner : String)
  | noMember (kind : ArgKind) (name : List Char)
  /-- A member of a method or of a kind is asked for. What such things hold is not known
  here, so this tells nothing of the text that there would be. -/
  | unseen (name : List Char)
  | emptyStep
  | strayAfterBracket
  | unclosedBracket
  | tooManyDigits
  | unknownConversion (c : Char)
  | nestedTooDeep
  | layout (cause : LayoutError)
  deriving DecidableEq, Repr

/-- A character in a message, by its number where it is not a visible one of ASCII
below `bound`. -/
def visibleBelow (bound : Nat) (c : Char) : String :=
  if 32 < c.toNat ∧ c.toNat < bound then c.toString
  else "\\x" ++ String.ofList (Nat.toDigits 16 c.toNat)

def LayoutError.message : LayoutError → String
  | .tooManyDigits => "Too many decimal digits in format string"
  | .precisionMissing => "Format specifier missing precision"
  | .notALayout layout kind =>
    s!"Invalid format specifier '{String.ofList layout}' for object of type '{kind.name}'"
  | .groupedTwice => "Cannot specify both ',' and '_'."
  | .notGroupable separator type =>
    s!"Cannot specify '{separator}' with '{visibleBelow 128 type}'."
  | .unknownType type kind =>
    s!"Unknown format code '{visibleBelow 128 type}' for object of type '{kind.name}'"
  | .signedText true => "Space not allowed in string format specifier"
  | .signedText false => "Sign not allowed in string format specifier"
  | .unsignedZeroText => "Negative zero coercion (z) not allowed in string format specifier"
  | .alternateText => "Alternate form (#) not allowed in string format specifier"
  | .signAlignedText => "'=' alignment not allowed in string format specifier"
  | .preciseInteger => "Precision not allowed in integer format specifier"
  | .unsignedZeroInteger => "Negative zero coercion (z) not allowed in integer format specifier"
  | .signedCharacter => "Sign not allowed with integer format specifier 'c'"
  | .alternateCharacter => "Alternate form (#) not allowed with integer format specifier 'c'"
  | .noSuchCharacter => "%c arg not in range(0x110000)"
  | .numberBeyondWord => "Python int too large to convert to C long"
  | .numberBeyondFloat => "int too large to convert to float"
  | .precisionTooLarge => "precision too big"
  | .unsuited type => s!"unsupported format string passed to {type}.__format__"
  | .unwritable cause => cause.message

def RenderError.message : RenderError → String
  | .malformed cause => cause.message
  | .noArgument name => Text.quoted (String.ofList name)
  | .noPositional index => s!"Replacement index {index} out of range for positional args tuple"
  | .beyondEnd => "string index out of range"
  | .positionNotNumber => "string indices must be integers, not 'str'"
  | .notIndexable owner => owner ++ " is not subscriptable"
  | .noMember kind name => s!"'{kind.name}' object has no attribute '{String.ofList name}'"
  | .unseen name => s!"'{String.ofList name}' is a member of a method or of a kind"
  | .emptyStep => "Empty attribute in format string"
  | .strayAfterBracket => "Only '.' or '[' may follow ']' in format field specifier"
  | .unclosedBracket => "Missing ']' in format string"
  | .tooManyDigits => "Too many decimal digits in format string"
  | .unknownConversion c => "Unknown conversion specifier " ++ visibleBelow 127 c
  | .nestedTooDeep => "Max string recursion exceeded"
  | .layout cause => cause.message

end TelephonyAlerts.Template
