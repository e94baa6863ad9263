import TelephonyAlerts.Failure
import TelephonyAlerts.Yaml.Document

/-!
# Settings from data and from a file

Every part of the data may be missing or count as no; then its settings have their
standard values. What is not a map where a part should be has a form error, which
is no refusal of the settings but a fault of the data. `Settings.toDatum` writes the
data that reads back as the settings.

A settings file is a YAML text whose data is a map. Data that counts as no, such as
that of an empty file, is an empty map.
-/

namespace TelephonyAlerts

open TelephonyAlerts.Data TelephonyAlerts.Number

/-! ## Parts of the data -/

namespace Data.Datum

/-- The datum under a key, if the datum is a map; nothing but a map has keys. A map that
stands inside itself has its keys where it begins. -/
def member (d : Datum) (key : String) : Except FormError (Option Datum) :=
  match d with
  | map entries => .ok (lookup key entries)
  | loop true => .ok none
  | d => .error (.noMember d.kindName "get")

def entries (d : Datum) : Except FormError (List (Datum × Datum)) :=
  match d with
  | map entries => .ok entries
  | loop true => .ok []
  | d => .error (.noMember d.kindName "items")

/-- The part under a key; one that counts as no is an empty map. -/
def part (d : Datum) (key : String) : Except FormError Datum := do
  match ← d.member key with
  -- Of all maps only the one that has the part stands around it.
  | some (loop true) => return d
  | some s => return if s.isTruthy then s else map []
  | none => return map []

/-- A switch: its datum counts as yes or no, and `standard` holds where there is none. -/
def switch (d : Datum) (key : String) (standard : Bool) : Except FormError Bool := do
  return ((← d.member key).map isTruthy).getD standard

def toFloat (d : Datum) : Except FormError Binary64 :=
  match d with
  | float x => .ok x
  | text s =>
    match Binary64.read? s with
    | some x => .ok x
    | none => .error (.notNumeric s)
  | d =>
    match d.integer? with
    | none => .error (.notANumber d.kindName)
    | some n =>
      match Binary64.ofInt n with
      | .infinite _ => .error .beyondFloat
      | x => .ok x

end Data.Datum

namespace Settings

/-! ## Data -/

/-- Templates by key: whatever stands for a key or a template is written as text, as far as
it can be written. -/
def readStrings (entries : List (Datum × Datum)) : Except FormError (Assoc String String) :=
  if Datum.areWritableEntries entries then
    .ok (Assoc.ofPairs (entries.map fun (k, v) => (k.plain, v.plain)))
  else .error (.tooManyDigits {})

/-- The settings that data holds, the wording not yet looked at. -/
def readUnchecked (d : Datum) : Except ReadError Settings := do
  -- A part that is no map fails where its first member is asked for.
  let blocked ← (d.part "blacklist").mapError .form
  let trace ← (d.part "trace").mapError .form
  let rate ← match ← (trace.member "sample_rate").mapError .form with
    | some r => r.toFloat.mapError .form
    | none => pure .one
  if !rate.inUnit then throw (.refused (.rateOutOfRange rate))
  let entries ← ((d.part "strings").bind Datum.entries).mapError .form
  let strings ← (readStrings entries).mapError .form
  let voiceCapable ← (d.switch "voice_capable" true).mapError .form
  let tellsBlocked ← (blocked.switch "notify_enabled" true).mapError .form
  let enabled ← (trace.switch "enabled" false).mapError .form
  return { voiceCapable, tellsBlocked, tracing := { enabled, rate }, strings }

def read (d : Datum) : Except ReadError Settings := do
  let s ← readUnchecked d
  match s.wording with
  | .ok _ => return s
  | .error e => throw (.refused (.wording e))

def toDatum (s : Settings) : Datum :=
  .map
    [(.text "voice_capable", .bool s.voiceCapable),
     (.text "blacklist", .map [(.text "notify_enabled", .bool s.tellsBlocked)]),
     (.text "trace", .map
       [(.text "enabled", .bool s.tracing.enabled), (.text "sample_rate", .float s.tracing.rate)]),
     (.text "strings", .map (s.strings.map fun (k, v) => (.text k, .text v)))]

/-! ## Files -/

def markupFailure (path : String) : Yaml.Fault → Failure
  | .malformed => .settings (.notMarkup path)
  | fault => .markup fault

/-- The map that a file holds; `content` is `none` where there is no file. -/
def readFile (path : String) (content : Option (List UInt8)) : Except Failure Datum := do
  match content with
  | none => throw (.settings (.fileMissing path))
  | some bytes =>
    let text ← (Text.decode bytes).mapError .encoding
    let data ← (Yaml.read (Yaml.uniformBreaks text)).mapError (markupFailure path)
    if !data.isTruthy then return .map []
    match data with
    | .map entries => return .map entries
    | _ => throw (.settings (.notAMap path))

def ofFile (path : String) (content : Option (List UInt8)) : Except Failure Settings := do
  (read (← readFile path content)).mapError .ofRead

end Settings

end TelephonyAlerts
