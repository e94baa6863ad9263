import TelephonyAlerts.Data.Assoc
import TelephonyAlerts.Template.Render
import TelephonyAlerts.Wording.Phrase

/-!
# Wording

The templates in use: the standard ones and those that the settings put in their
place. A replacement must be a template and may start its fields from the arguments of
the standard template only; what stands inside a layout is not looked at.
-/

namespace TelephonyAlerts

open TelephonyAlerts.Data TelephonyAlerts.Template

inductive WordingError
  | unknownKeys (keys : List String)
  | malformed (key : String) (cause : Malformed)
  | unknownFields (key : String) (names : List String)
  deriving DecidableEq, Repr

def WordingError.message : WordingError → String
  | .unknownKeys keys => "Unknown string keys: " ++ ", ".intercalate keys
  | .malformed key cause => s!"Invalid template for '{key}': {cause.message}"
  | .unknownFields key names =>
    s!"String '{key}' uses unknown fields: " ++ ", ".intercalate names

/-- Texts in ascending order of their characters, each once. -/
def inOrder (names : List String) : List String :=
  names.eraseDups.mergeSort fun a b => a ≤ b

def fieldNames (template : String) : Except Malformed (List String) :=
  (pieces template.toList).map fun ps => (roots ps).map String.ofList

def Phrase.arguments (p : Phrase) : List String :=
  match fieldNames p.standard with
  | .ok names => names
  | .error _ => []

/-- The templates in use, by the phrases that do not have their standard one. -/
structure Wording where
  replaced : Assoc Phrase String := []
  deriving DecidableEq, Repr

namespace Wording

def template (w : Wording) (p : Phrase) : String := (w.replaced.get? p).getD p.standard

def check (p : Phrase) (template : String) : Except WordingError Unit :=
  match fieldNames template with
  | .error cause => .error (.malformed p.key cause)
  | .ok names =>
    match inOrder (names.filter (· ∉ p.arguments)) with
    | [] => .ok ()
    | extra => .error (.unknownFields p.key extra)

/-- The wording with replacements by key. -/
def ofReplacements (replacements : Assoc String String) : Except WordingError Wording := do
  -- Unknown keys are refused before any template is looked at.
  match inOrder (replacements.keys.filter fun k => (Phrase.ofKey? k).isNone) with
  | [] =>
    let known := replacements.filterMap fun (k, t) => (Phrase.ofKey? k).map (·, t)
    known.forM fun (p, t) => check p t
    return ⟨known⟩
  | unknown => throw (.unknownKeys unknown)

def text (w : Wording) (p : Phrase) (args : Arguments := []) : Except RenderError String :=
  (render args (w.template p).toList).map String.ofList

end Wording

end TelephonyAlerts
