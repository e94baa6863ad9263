import TelephonyAlerts.Yaml.Token.Block
import TelephonyAlerts.Text.Utf8

/-!
# Names, tags and directives

Anchors and aliases are names. A tag is a name behind a handle, or it is written whole
between angles. A directive fills a line.
-/

namespace TelephonyAlerts.Yaml

def endsName (c : Option Char) : Bool :=
  endsIndicator c || c.any fun c => "?:,]\x7d%@\x60".toList.contains c

/-- The name of an anchor or an alias; its indicator comes next. -/
def Cursor.anchorName (c : Cursor) : Except Fault (String × Cursor) :=
  let (name, c) := c.forward.span isNameChar
  if name.isEmpty || !endsName c.peek then .error .malformed
  else .ok (String.ofList name, c)

namespace Tag

def isTagChar (c : Char) : Bool :=
  c.isAlphanum || "-;/?:@&=+$,_.!~*\x27()[]".toList.contains c

/-- A handle: an exclamation mark, or a name between two. -/
def handle (c : Cursor) : Except Fault (String × Cursor) :=
  if c.peek ≠ some '!' then .error .malformed
  else if c.peekAt 1 = some ' ' then .ok ("!", c.forward)
  else
    let (name, next) := c.forward.span isNameChar
    if next.peek = some '!' then .ok ("!" ++ String.ofList name ++ "!", next.forward)
    else .error .malformed

/-- Bytes that are written as a percent sign and two digits each. -/
def escapedBytes : List Char → Option (List UInt8)
  | '%' :: a :: b :: r => do
    let n ← Quoted.hexNumber? [a, b]
    return UInt8.ofNat n :: (← escapedBytes r)
  | '%' :: _ => none
  | _ => some []

def charactersFrom : Nat → Cursor → Except Fault (List Char × Cursor)
  | 0, c => .ok ([], c)
  | fuel + 1, c =>
    match c.peek with
    | none => .ok ([], c)
    | some ch =>
      if isTagChar ch then
        (charactersFrom fuel c.forward).map fun (r, c) => (ch :: r, c)
      else if ch = '%' then
        -- Escapes that stand next to each other are bytes of one text.
        match escapedBytes c.rest with
        | none => .error .malformed
        | some bytes =>
          match Text.decode bytes with
          | .error _ => .error .malformed
          | .ok chars =>
            (charactersFrom fuel (c.forwardBy (3 * bytes.length))).map fun (r, c) => (chars ++ r, c)
      else .ok ([], c)

/-- The characters of a tag, of which there is one at least. -/
def characters (c : Cursor) : Except Fault (String × Cursor) := do
  let (chars, next) ← charactersFrom (c.rest.length + 1) c
  if next.index = c.index then throw .malformed
  return (String.ofList chars, next)

/-- Whether the word of a tag holds a second exclamation mark. -/
def hasHandle (c : Cursor) : Bool :=
  (c.forward.rest.takeWhile fun ch => !endsWord (some ch)).contains '!'

/-- A tag without what may follow it. -/
def written (c : Cursor) : Except Fault (WrittenTag × Cursor) := do
  if c.peekAt 1 = some '<' then
    let (name, c) ← characters (c.forwardBy 2)
    if c.peek ≠ some '>' then throw .malformed
    return (⟨none, name⟩, c.forward)
  else if endsIndicator (c.peekAt 1) then
    -- The exclamation mark alone leaves the choice to the reader.
    return (⟨none, "!"⟩, c.forward)
  else
    let (h, c) ← if hasHandle c then handle c else pure ("!", c.forward)
    let (name, c) ← characters c
    return (⟨some h, name⟩, c)

end Tag

def Cursor.tag (c : Cursor) : Except Fault (WrittenTag × Cursor) := do
  let (t, c) ← Tag.written c
  if !endsWord c.peek then throw .malformed
  return (t, c)

/-! ## Directives -/

namespace Directive

def number (c : Cursor) : Except Fault (Nat × Cursor) :=
  let (ds, c) := c.span Char.isDigit
  if ds.isEmpty then .error .malformed
  else (decimal ds).map (·, c)

def readVersion (c : Cursor) : Except Fault (Directive × Cursor) := do
  let (major, c) ← number c.skipSpaces
  if c.peek ≠ some '.' then throw .malformed
  let (minor, c) ← number c.forward
  if !endsWord c.peek then throw .malformed
  return (.version major minor, c)

def readHandle (c : Cursor) : Except Fault (Directive × Cursor) := do
  let (name, c) ← Tag.handle c.skipSpaces
  if c.peek ≠ some ' ' then throw .malformed
  let (expansion, c) ← Tag.characters c.skipSpaces
  if !endsWord c.peek then throw .malformed
  return (.handle name expansion, c)

end Directive

/-- The directive that starts here, and what follows its line. -/
def Cursor.directive (c : Cursor) : Except Fault (Directive × Cursor) := do
  let (name, c) := c.forward.span isNameChar
  if name.isEmpty || !endsWord c.peek then throw .malformed
  let (d, c) ←
    if name = "YAML".toList then Directive.readVersion c
    else if name = "TAG".toList then Directive.readHandle c
    else pure (.reserved, c.skipLine)
  return (d, ← Block.endOfLine c)

end TelephonyAlerts.Yaml
