import TelephonyAlerts.Template.Member
import TelephonyAlerts.Text.Digit

/-!
# Arguments and the paths to them

A field names an argument and may go on from it: to a member after a point, to an
item between brackets. `followPath` takes the steps one at a time, so the first step
that cannot be taken decides the failure.
-/

namespace TelephonyAlerts.Template

open TelephonyAlerts.Text

/-- A value in a template. Arguments are texts and numbers; a thing is only met behind one
of them, at the end of a path. -/
inductive Argument
  | text (s : List Char)
  | number (n : Int)
  | thing (t : Thing)
  deriving DecidableEq, Repr

/-- Arguments by name; of a repeated name the last counts. -/
abbrev Arguments := List (String × Argument)

def Arguments.find (args : Arguments) (name : List Char) : Option Argument :=
  (args.reverse.find? fun a => a.1.toList == name).map (·.2)

namespace Argument

/-- A value as a text, if it can be written. -/
def chars : Argument → Except Number.TooManyDigits (List Char)
  | text s => .ok s
  | number n => (Number.written n).map String.toList
  | thing t => .ok t.shown.toList

/-- The member of a kind of values by a name, the same for every value of the kind. -/
def commonMember? (k : ArgKind) (name : String) : Option Argument :=
  if name = "__doc__" then some (text k.doc.toList) else (k.thing? name).map thing

/-- The members of a value: a number has a real and an imaginary part, a numerator and a
denominator as well. -/
def member? (a : Argument) (name : List Char) : Option Argument :=
  match a with
  | text _ => commonMember? .text (String.ofList name)
  | number n =>
    if name = "real".toList ∨ name = "numerator".toList then some (number n)
    else if name = "imag".toList then some (number 0)
    else if name = "denominator".toList then some (number 1)
    else commonMember? .number (String.ofList name)
  | thing _ => none

end Argument

def maxPosition : Nat := Nat.pow 2 63 - 1

/-- A position, if the whole text consists of digits. -/
def position? (s : List Char) : Except RenderError (Option Nat) :=
  match spanDigits s with
  | ([], _) => .ok none
  | (ds, rest) =>
    -- Digits that are too many are refused even where another character follows them.
    if maxPosition < ofDigits ds then .error .tooManyDigits
    else .ok (if rest.isEmpty then some (ofDigits ds) else none)

/-- Takes one step by name or by position, between brackets. -/
def Argument.item (a : Argument) (name : List Char) : Except RenderError Argument := do
  -- A position that is too long is refused whatever it is a position in.
  let index ← position? name
  if name.isEmpty then throw .emptyStep
  match a, index with
  | .number _, _ => throw (.notIndexable s!"'{ArgKind.number.name}' object")
  | .thing t, _ => throw (.notIndexable t.described)
  | .text _, none => throw .positionNotNumber
  | .text s, some i =>
    match s[i]? with
    | some c => return .text [c]
    | none => throw .beyondEnd

/-- Takes one step to a member, after a point. -/
def Argument.member (a : Argument) (name : List Char) : Except RenderError Argument :=
  if name.isEmpty then .error .emptyStep
  else match a.member? name with
    | some b => .ok b
    | none => .error <| match a with
      | .text _ => .noMember .text name
      | .number _ => .noMember .number name
      | .thing _ => .unseen name

def followPath (a : Argument) : List Char → Except RenderError Argument
  | [] => .ok a
  | '.' :: r =>
    let name := r.takeWhile fun c => c != '.' && c != '['
    let rest := r.dropWhile fun c => c != '.' && c != '['
    (a.member name).bind fun b => followPath b rest
  | '[' :: r =>
    match _h : r.dropWhile (· != ']') with
    | [] => .error .unclosedBracket
    | _ :: rest => (a.item (r.takeWhile (· != ']'))).bind fun b => followPath b rest
  | _ :: _ => .error .strayAfterBracket
termination_by s => s.length
decreasing_by
  · have := (List.dropWhile_sublist (fun c => c != '.' && c != '[') (l := r)).length_le
    simp only [List.length_cons]
    omega
  · have := (List.dropWhile_sublist (fun c => c != ']') (l := r)).length_le
    simp only [_h, List.length_cons] at this
    simp only [List.length_cons]
    omega

/-- The value of a field: its argument by name, then the steps of its path. -/
def Field.value (args : Arguments) (f : Field) : Except RenderError Argument := do
  -- No argument is given by position; an empty name stands for the first one.
  match ← position? f.root with
  | some i => throw (.noPositional i)
  | none =>
    if f.root.isEmpty then throw (.noPositional 0)
    match args.find f.root with
    | none => throw (.noArgument f.root)
    | some a => followPath a f.steps

end TelephonyAlerts.Template
