import TelephonyAlerts.Yaml.Cursor
import TelephonyAlerts.Yaml.Token

/-!
# Quoted scalars

A line break in a quoted scalar is a space, and each blank line behind it a line break;
spaces around them do not count. Between single quotes a quote is written twice;
between double quotes a backslash starts an escape, and before a line break it joins
the lines.
-/

namespace TelephonyAlerts.Yaml

/-- The value of a line break and of the blank lines behind it: alone a line feed is a
space. -/
def folded (first : Char) (blankLines : List Char) : List Char :=
  if first ≠ '\n' then first :: blankLines
  else if blankLines.isEmpty then [' ']
  else blankLines

namespace Quoted

/-- What may be quoted by a character: a quote of the other kind stands for itself. -/
inductive Style
  | single
  | double
  deriving DecidableEq, Repr

def Style.mark : Style → Char
  | .single => '\x27'
  | .double => '\x22'

/-- The line breaks of blank lines, if a line starts here. A quoted scalar does not go
beyond its document. -/
def blankLinesFrom : Nat → Cursor → Except Fault (List Char × Cursor)
  | 0, c => .ok ([], c)
  | fuel + 1, c =>
    if c.atSeparator then .error .malformed
    else
      let c := c.skip isSpace
      match c.lineBreak? with
      | none => .ok ([], c)
      | some (b, c) => (blankLinesFrom fuel c).map fun (bs, c) => (b :: bs, c)

def blankLines (c : Cursor) : Except Fault (List Char × Cursor) :=
  blankLinesFrom (c.rest.length + 1) c

def gap (c : Cursor) : Except Fault (List Char × Cursor) :=
  let (spaces, c) := c.span isSpace
  match c.lineBreak? with
  | none => .ok (spaces, c)
  | some (b, c) => (blankLines c).map fun (bs, c) => (folded b bs, c)

def escapes : List (Char × Char) :=
  [('0', '\x00'), ('a', '\x07'), ('b', '\x08'), ('t', '\t'), ('\t', '\t'), ('n', '\n'),
   ('v', '\x0b'), ('f', '\x0c'), ('r', '\r'), ('e', '\x1b'), (' ', ' '), ('\x22', '\x22'),
   ('\\', '\\'), ('/', '/'), ('N', '\u0085'), ('_', '\u00a0'), ('L', '\u2028'), ('P', '\u2029')]

/-- How many hexadecimal digits number a character behind a backslash. -/
def escapeDigits : List (Char × Nat) := [('x', 2), ('u', 4), ('U', 8)]

def hexValue? (c : Char) : Option Nat :=
  if '0' ≤ c ∧ c ≤ '9' then some (c.toNat - '0'.toNat)
  else if 'a' ≤ c ∧ c ≤ 'f' then some (c.toNat - 'a'.toNat + 10)
  else if 'A' ≤ c ∧ c ≤ 'F' then some (c.toNat - 'A'.toNat + 10)
  else none

def hexNumber? (ds : List Char) : Option Nat :=
  ds.foldlM (fun n c => (hexValue? c).map (n * 16 + ·)) 0

/-- The character of a number. -/
def character (n : Nat) : Except Fault Char :=
  if 0x110000 ≤ n then .error (.noCharacter n)
  else if n.isValidChar then .ok (Char.ofNat n)
  -- Halves of characters have none of their own.
  else .ok '\ufffd'

/-- What an escape stands for; its backslash has been read. -/
def escape (c : Cursor) : Except Fault (List Char × Cursor) :=
  match c.peek with
  | none => .error .malformed
  | some ch =>
    match escapes.lookup ch, escapeDigits.lookup ch, c.lineBreak? with
    | some value, _, _ => .ok ([value], c.forward)
    | none, some n, _ =>
      let ds := c.forward.rest.take n
      match hexNumber? ds with
      | some code =>
        if ds.length = n then (character code).map fun value => ([value], c.forwardBy (n + 1))
        else .error .malformed
      | none => .error .malformed
    -- An escaped line break joins the lines.
    | none, none, some (_, c) => blankLines c
    | none, none, none => .error .malformed

def textFrom (style : Style) : Nat → Cursor → Except Fault (List Char × Cursor)
  | 0, _ => .error .malformed
  | fuel + 1, c =>
    let go (value : List Char) (c : Cursor) : Except Fault (List Char × Cursor) :=
      (textFrom style fuel c).map fun (more, c) => (value ++ more, c)
    match c.peek with
    | none => .error .malformed
    | some ch =>
      if ch = style.mark then
        -- Between single quotes a quote is written twice.
        if style = .single ∧ c.peekAt 1 = some style.mark then go [ch] (c.forwardBy 2)
        else .ok ([], c.forward)
      else if isSpace ch || isBreak ch then do
        let (value, c) ← gap c
        go value c
      else if style = .double ∧ ch = '\\' then do
        let (value, c) ← escape c.forward
        go value c
      else go [ch] c.forward

end Quoted

/-- The text of a quoted scalar that starts here, and what follows it. -/
def Cursor.quoted (c : Cursor) (style : Quoted.Style) : Except Fault (List Char × Cursor) :=
  Quoted.textFrom style (c.rest.length + 1) c.forward

end TelephonyAlerts.Yaml
