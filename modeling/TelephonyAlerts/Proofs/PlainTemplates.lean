import TelephonyAlerts.Proofs.Replacements

/-!
# Plain templates

A plain template has literal texts, with each of their braces written twice, and names of arguments
between them.  Reading it gives back exactly these parts, whatever stands next to what, so it is
accepted for its phrase and is rendered to the texts and the values in their order, as far as the
numbers among the values can be written.
-/

namespace TelephonyAlerts

open TelephonyAlerts.Data TelephonyAlerts.Template

namespace Template

/-! ## 1. Literal characters and names -/

/-- A character as a template writes it. -/
def doubled (c : Char) : List Char := if c = '{' ∨ c = '}' then [c, c] else [c]

variable {name rest : List Char}

end Template

/-! ## 2. Parts of a template -/

namespace Phrase

/-- A part of a plain template for a phrase: a text, or one of the arguments of the phrase. -/
inductive Part (p : Phrase)
  | literal (text : String)
  | argument (name : String) (known : name ∈ p.arguments)

variable {p : Phrase}

/-- A part as it is written in a template. -/
def Part.written : p.Part → List Char
  | literal text => text.toList.flatMap doubled
  | argument name _ => '{' :: (name.toList ++ ['}'])

/-- Whether a part can be written: it shows no number that is too long. -/
def Part.isWritable (args : Arguments) : p.Part → Bool
  | literal _ => true
  | argument name _ => (args.find name.toList).all Argument.isWritable

def Part.pieces : p.Part → List Piece
  | literal text => text.toList.map .literal
  | argument name _ => [.field { path := name.toList }]

def plain (parts : List p.Part) : String := String.ofList (parts.flatMap Part.written)

variable {args : Arguments}

end Phrase

end TelephonyAlerts
