import TelephonyAlerts.Template.Integer

/-!
# Filling in templates

The pieces of a template are set one after the other, and the first that fails ends
the rendering. A layout with fields is a template of its own, filled in with the same
arguments before it is read; its fields have plain layouts only.
-/

namespace TelephonyAlerts.Template

/-- The text of a value after a conversion: quoted, plain, or quoted in ASCII. What is no
text is quoted as it is written. -/
def Argument.convert (a : Argument) (c : Char) : Except RenderError Argument :=
  let plain : Except RenderError Argument :=
    (a.chars.map .text).mapError fun cause => .layout (.unwritable cause)
  match c, a with
  | 'r', .text s => .ok (.text (Text.quote s))
  | 'a', .text s => .ok (.text (Text.quoteAscii s))
  | 'r', _ | 'a', _ | 's', _ => plain
  | c, _ => .error (.unknownConversion c)

/-- The text of a field, with `nested` filling in a layout that has fields. -/
def Field.render (nested : List Char → Except RenderError (List Char)) (args : Arguments)
    (f : Field) : Except RenderError (List Char) := do
  let value ← f.value args
  let value ← match f.conversion with
    | some c => value.convert c
    | none => pure value
  -- A layout with fields is filled in before it is read.
  let layout ← if '{' ∈ f.layout then nested f.layout else pure f.layout
  (value.setIn layout).mapError .layout

/-- The text of pieces, up to the first that fails. -/
def renderPieces (nested : List Char → Except RenderError (List Char)) (args : Arguments) :
    List (Except Malformed Piece) → Except RenderError (List Char)
  | [] => .ok []
  | .error e :: _ => .error (.malformed e)
  | .ok (.literal c) :: rest => (renderPieces nested args rest).map (c :: ·)
  | .ok (.field f) :: rest => do
    let s ← f.render nested args
    let t ← renderPieces nested args rest
    return s ++ t

/-- The text of a template in which templates stand inside one another less than
`depth` deep. -/
def renderWithin (args : Arguments) : Nat → List Char → Except RenderError (List Char)
  | 0, _ => .error .nestedTooDeep
  | depth + 1, s => renderPieces (renderWithin args depth) args (scan s)

/-- The text of a template filled in with arguments. One template may stand inside
another, and no more. -/
def render (args : Arguments) (template : List Char) : Except RenderError (List Char) :=
  renderWithin args 2 template

end TelephonyAlerts.Template
