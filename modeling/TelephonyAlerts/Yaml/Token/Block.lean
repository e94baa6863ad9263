import TelephonyAlerts.Yaml.Token.Quoted

/-!
# Block scalars

A block scalar is made of lines that are indented alike: by as much as its header says,
or else as much as its first line. Literal lines are kept as they are; folded ones are
joined unless one of them starts with a space. The header also tells what becomes of
the line breaks at the end.
-/

namespace TelephonyAlerts.Yaml.Block

/-- What becomes of the line breaks at the end. -/
inductive Chomping
  -- None is kept.
  | strip
  -- That of the last line is kept.
  | clip
  -- All are kept.
  | keep
  deriving DecidableEq, Repr

/-- What the header says: the chomping and the indentation beyond that of the parent. -/
structure Header where
  chomping : Chomping
  indent : Option Nat

def chomping? (c : Option Char) : Option Chomping :=
  if c = some '+' then some .keep
  else if c = some '-' then some .strip
  else none

def digit? (c : Option Char) : Option Nat :=
  c.bind fun c => if c.isDigit then some (c.toNat - '0'.toNat) else none

/-- The two indicators, in either order and each of them optional. -/
def indicators (c : Cursor) : Header × Cursor :=
  match chomping? c.peek, digit? c.peek with
  | some chomping, _ =>
    match digit? c.forward.peek with
    | some n => (⟨chomping, some n⟩, c.forwardBy 2)
    | none => (⟨chomping, none⟩, c.forward)
  | none, some n =>
    match chomping? c.forward.peek with
    | some chomping => (⟨chomping, some n⟩, c.forwardBy 2)
    | none => (⟨.clip, some n⟩, c.forward)
  | none, none => (⟨.clip, none⟩, c)

/-- The rest of a line that may hold a comment and nothing else. -/
def endOfLine (c : Cursor) : Except Fault Cursor :=
  let c := c.skipSpaces.skipComment
  if endsLine c.peek then .ok c.skipBreak else .error .malformed

def header (c : Cursor) : Except Fault (Header × Cursor) := do
  let (h, c) := indicators c
  if h.indent = some 0 ∨ !endsWord c.peek then throw .malformed
  return (h, ← endOfLine c)

/-- Behind as many spaces as an indentation has at most. -/
def skipIndent (indent : Nat) (c : Cursor) : Cursor :=
  c.forwardBy (min (indent - c.column) (c.span (· == ' ')).1.length)

/-- The line breaks of lines that hold no more than an indentation. -/
def blankLines (indent : Nat) : Nat → Cursor → List Char × Cursor
  | 0, c => ([], c)
  | fuel + 1, c =>
    let c := skipIndent indent c
    match c.lineBreak? with
    | none => ([], c)
    | some (b, c) =>
      let (bs, c) := blankLines indent fuel c
      (b :: bs, c)

/-- The line breaks of blank lines, and the widest indentation of these and of the line
behind them. -/
def widestIndent : Nat → Cursor → List Char × Nat × Cursor
  | 0, c => ([], 0, c)
  | fuel + 1, c =>
    let c := c.skipSpaces
    match c.lineBreak? with
    | none => ([], c.column, c)
    | some (b, next) =>
      let (bs, widest, next) := widestIndent fuel next
      (b :: bs, max c.column widest, next)

/-- Lines that have been read: their text, the line break of the last line, those of the
blank lines behind it, and what follows. -/
structure Lines where
  text : List Char
  lastBreak : List Char
  trailing : List Char
  next : Cursor

def atLine (indent : Nat) (c : Cursor) : Bool := c.column = indent && c.peek.isSome

/-- What joins a line to the next one, given the blank lines between them. -/
def joint (isFolded : Bool) (flush : Bool) (lineBreak blank : List Char) : List Char :=
  if isFolded ∧ flush ∧ lineBreak = ['\n'] then if blank.isEmpty then [' '] else []
  else lineBreak

def linesFrom (isFolded : Bool) (indent : Nat) : Nat → List Char → Cursor → Lines
  | 0, blank, c => ⟨[], [], blank, c⟩
  | fuel + 1, blank, c =>
    if atLine indent c then
      let (line, c') := c.span (!isBreak ·)
      let (lineBreak, c') := match c'.lineBreak? with
        | some (b, c') => ([b], c')
        | none => ([], c')
      let (blank', c') := blankLines indent (c'.rest.length + 1) c'
      if atLine indent c' then
        let flush := !c.peek.any isSpace && !c'.peek.any isSpace
        let more := linesFrom isFolded indent fuel blank' c'
        { more with text := blank ++ line ++ joint isFolded flush lineBreak blank' ++ more.text }
      else ⟨blank ++ line, lineBreak, blank', c'⟩
    else ⟨[], [], blank, c⟩

def Lines.chomp (ls : Lines) : Chomping → List Char
  | .strip => ls.text
  | .clip => ls.text ++ ls.lastBreak
  | .keep => ls.text ++ ls.lastBreak ++ ls.trailing

end Block

/-- The text of a block scalar that starts here, and what follows it. Its lines are
indented by `least` at least. -/
def Cursor.block (c : Cursor) (isFolded : Bool) (least : Nat) :
    Except Fault (List Char × Cursor) := do
  let (h, c) ← Block.header c.forward
  let least := max least 1
  let fuel := c.rest.length + 1
  let (indent, blank, c) := match h.indent with
    | some n => (least + n - 1, Block.blankLines (least + n - 1) fuel c)
    | none =>
      let (blank, widest, c) := Block.widestIndent fuel c
      (max least widest, blank, c)
  let lines := Block.linesFrom isFolded indent fuel blank c
  return (lines.chomp h.chomping, lines.next)

end TelephonyAlerts.Yaml
