import TelephonyAlerts.Yaml.Character

/-!
# A place in a text

What is still to be read, and the place it starts at: the number of characters before
it, of line breaks before it, and of characters before it on its line.
-/

namespace TelephonyAlerts.Yaml

structure Cursor where
  rest : List Char
  index : Nat := 0
  line : Nat := 0
  column : Nat := 0
  deriving DecidableEq, Repr

namespace Cursor

def peek (c : Cursor) : Option Char := c.rest.head?

def peekAt (c : Cursor) (n : Nat) : Option Char := c.rest[n]?

/-- The place behind a character that stands before `rest`. -/
def past (c : Cursor) (ch : Char) (rest : List Char) : Cursor :=
  if isBreak ch then ⟨rest, c.index + 1, c.line + 1, 0⟩
  else ⟨rest, c.index + 1, c.line, if ch = orderMark then c.column else c.column + 1⟩

def forward (c : Cursor) : Cursor :=
  match c.rest with
  | [] => c
  | ch :: rest => c.past ch rest

def forwardBy (c : Cursor) : Nat → Cursor
  | 0 => c
  | n + 1 => c.forward.forwardBy n

/-- The characters of a class that come next, and the place behind them. -/
def span (p : Char → Bool) (c : Cursor) : List Char × Cursor :=
  let taken := c.rest.takeWhile p
  (taken, c.forwardBy taken.length)

def skip (p : Char → Bool) (c : Cursor) : Cursor := (c.span p).2

def skipSpaces (c : Cursor) : Cursor := c.skip (· == ' ')

/-- At the end of the line, or of the comment, that comes next. -/
def skipLine (c : Cursor) : Cursor := c.skip (!isBreak ·)

def skipComment (c : Cursor) : Cursor := if c.peek = some '#' then c.skipLine else c

/-- The value of the line break that comes next, and the place behind it. -/
def lineBreak? (c : Cursor) : Option (Char × Cursor) :=
  match c.rest with
  | ch :: rest => if isBreak ch then some (breakValue ch, c.past ch rest) else none
  | [] => none

def skipBreak (c : Cursor) : Cursor := ((c.lineBreak?).map (·.2)).getD c

/-- Whether a mark of three characters that separates documents comes next. -/
def atMark (c : Cursor) (mark : String) : Bool :=
  c.rest.take 3 = mark.toList && endsIndicator (c.peekAt 3)

/-- Whether the start or the end of a document comes next, if this is a line's start. -/
def atSeparator (c : Cursor) : Bool := c.atMark "---" || c.atMark "..."

end Cursor

end TelephonyAlerts.Yaml
