import TelephonyAlerts.Calendar.Moment
import TelephonyAlerts.Number.Decimal
import TelephonyAlerts.Text.Quoted

/-!
# Data as a settings file holds it

A datum is a scalar, a list, or a map whose keys are scalars. Entries keep the order
in which their keys first appeared, and a repeated key keeps its place and takes the
last value.

A vocabulary is a finite list of members, each written in data by a value of its own.
-/

namespace TelephonyAlerts.Data

open TelephonyAlerts.Number TelephonyAlerts.Calendar

inductive Datum
  | null
  | bool (b : Bool)
  | int (n : Int)
  | float (x : Binary64)
  | text (s : String)
  | date (d : Date)
  | moment (t : Moment)
  | list (items : List Datum)
  | map (entries : List (Datum × Datum))
  /-- A list, or a map if `isMap` holds, that stands inside itself. What it holds is not
  told again, and a text of it is cut short where it begins. -/
  | loop (isMap : Bool)
  deriving Repr, Inhabited

namespace Datum

def kindName : Datum → String
  | null => "NoneType"
  | bool _ => "bool"
  | int _ => "int"
  | float _ => "float"
  | text _ => "str"
  | date _ => "datetime.date"
  | moment _ => "datetime.datetime"
  | list _ | loop false => "list"
  | map _ | loop true => "dict"

/-- Whether a datum counts as yes: everything does but null, `false`, zero and what is
empty. -/
def isTruthy : Datum → Bool
  | null => false
  | bool b => b
  | int n => n != 0
  | float x => x.isNonzero
  | text s => s != ""
  | list items => !items.isEmpty
  | map entries => !entries.isEmpty
  | date _ | moment _ | loop _ => true

/-! ## Texts -/

def dateParts (d : Date) : String := s!"{d.year}, {d.month}, {d.day}"

def zoneParts (microseconds : Int) : String :=
  if microseconds = 0 then "datetime.timezone.utc"
  else "datetime.timezone(" ++ durationText microseconds ++ ")"

/-- A moment written as the parts it is made of; zeros at the end go. -/
def momentParts (t : Moment) : String :=
  let tail :=
    if t.microsecond ≠ 0 then s!", {t.second}, {t.microsecond}"
    else if t.second ≠ 0 then s!", {t.second}"
    else ""
  let zone := match t.offset with
    | some o => ", tzinfo=" ++ zoneParts o
    | none => ""
  s!"{dateParts t.date}, {t.hour}, {t.minute}{tail}{zone}"

mutual

/-- A datum as it is written inside a message: texts are quoted. -/
def shown : Datum → String
  | null => "None"
  | bool b => if b then "True" else "False"
  | int n => toString n
  | float x => x.text
  | text s => Text.quoted s
  | date d => "datetime.date(" ++ dateParts d ++ ")"
  | moment t => "datetime.datetime(" ++ momentParts t ++ ")"
  | list items => "[" ++ shownItems items ++ "]"
  | map entries => "\x7b" ++ shownEntries entries ++ "\x7d"
  | loop isMap => if isMap then "\x7b...\x7d" else "[...]"

def shownItems : List Datum → String
  | [] => ""
  | [d] => shown d
  | d :: rest => shown d ++ ", " ++ shownItems rest

def shownEntries : List (Datum × Datum) → String
  | [] => ""
  | [(k, v)] => shown k ++ ": " ++ shown v
  | (k, v) :: rest => shown k ++ ": " ++ shown v ++ ", " ++ shownEntries rest

end

/-- A datum as text: a text is itself, a date is plain, all else is as in a message. -/
def plain : Datum → String
  | text s => s
  | date d => d.text
  | moment t => t.textWith " "
  | d => d.shown

mutual

/-- Whether a datum can be written: every integer in it can. -/
def isWritable : Datum → Bool
  | int n => Number.isWritable n
  | list items => areWritable items
  | map entries => areWritableEntries entries
  | _ => true

def areWritable : List Datum → Bool
  | [] => true
  | d :: rest => isWritable d && areWritable rest

def areWritableEntries : List (Datum × Datum) → Bool
  | [] => true
  | (k, v) :: rest => isWritable k && isWritable v && areWritableEntries rest

end

/-! ## Maps -/

/-- Whether a datum can be a key: lists and maps cannot. -/
def isKey : Datum → Bool
  | list _ | map _ | loop _ => false
  | _ => true

/-- A truth value or an integer as an integer. -/
def integer? : Datum → Option Int
  | bool b => some (if b then 1 else 0)
  | int n => some n
  | _ => none

/-- Whether two keys are the same. Numbers are by their value, whatever their kind. -/
def sameKey (a b : Datum) : Bool :=
  match a, b with
  | null, null => true
  | text s, text t => s == t
  | date d, date e => d == e
  | moment s, moment t => s == t
  | float x, float y => x.sameValue y
  | float x, y => (y.integer?.map x.isInt).getD false
  | x, float y => (x.integer?.map y.isInt).getD false
  | x, y =>
    match x.integer?, y.integer? with
    | some m, some n => m == n
    | _, _ => false

/-- The entries with one more: a key that is there keeps its place and takes the value. -/
def insertEntry (k v : Datum) : List (Datum × Datum) → List (Datum × Datum)
  | [] => [(k, v)]
  | (k', v') :: rest =>
    if sameKey k' k then (k', v) :: rest else (k', v') :: insertEntry k v rest

def entriesOf (pairs : List (Datum × Datum)) : List (Datum × Datum) :=
  pairs.foldl (fun acc p => insertEntry p.1 p.2 acc) []

def lookup (key : String) (entries : List (Datum × Datum)) : Option Datum :=
  (entries.find? fun e => match e.1 with
    | text s => s == key
    | _ => false).map (·.2)

end Datum

/-! ## Vocabularies -/

/-- A finite type whose members are written in data. -/
class Vocabulary (α : Type) where
  /-- What messages call the vocabulary. -/
  label : String
  members : List α
  /-- What messages call a member. -/
  name : α → String
  /-- What data holds for a member. -/
  value : α → Datum

structure NotAMember where
  given : Datum
  label : String

def NotAMember.message (e : NotAMember) : String :=
  if e.given.isWritable then s!"{e.given.shown} is not a valid {e.label}"
  -- What was given stands in the message, so it must be written.
  else Number.TooManyDigits.message {}

def Vocabulary.read (α : Type) [Vocabulary α] (d : Datum) : Except NotAMember α :=
  match (members : List α).find? fun a => (value a).sameKey d with
  | some a => .ok a
  | none => .error ⟨d, label α⟩

def Vocabulary.text {α : Type} [Vocabulary α] (a : α) : String := (value a).plain

end TelephonyAlerts.Data
