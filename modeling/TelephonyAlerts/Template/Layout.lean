import TelephonyAlerts.Template.Argument

/-!
# Layouts

A layout says how a value is set: what fills the width, on which side the value
stands, how its sign is shown, how its digits are grouped, how much of it is shown,
and as what it is written. The parts come in this order and each may be missing.
-/

namespace TelephonyAlerts.Template

open TelephonyAlerts.Text

/-- Where a value stands in its width. `afterSign` puts the filling between the sign
and the digits. -/
inductive Align
  | left
  | right
  | center
  | afterSign
  deriving DecidableEq, Repr

def Align.ofChar? : Char → Option Align
  | '<' => some .left
  | '>' => some .right
  | '^' => some .center
  | '=' => some .afterSign
  | _ => none

/-- Which sign stands in front of a number that is not negative. -/
inductive SignRule
  | onlyMinus
  | plus
  | blank
  deriving DecidableEq, Repr

structure Layout where
  fill : Char := ' '
  align : Align
  sign : Option SignRule := none
  /-- Negative zero loses its sign. -/
  unsignedZero : Bool := false
  alternate : Bool := false
  width : Nat := 0
  separator : Option Char := none
  precision : Option Nat := none
  type : Char
  deriving DecidableEq, Repr

def ArgKind.align : ArgKind → Align
  | .text => .left
  | .number => .right

def ArgKind.type : ArgKind → Char
  | .text => 's'
  | .number => 'd'

/-! ## Reading -/

/-- Filling and alignment at the start of a layout. -/
def takeAlign : List Char → Option Char × Option Align × List Char
  | f :: c :: r =>
    -- A filling is any character in front of an alignment, another alignment included.
    match Align.ofChar? c with
    | some a => (some f, some a, r)
    | none =>
      match Align.ofChar? f with
      | some a => (none, some a, c :: r)
      | none => (none, none, f :: c :: r)
  | [c] =>
    match Align.ofChar? c with
    | some a => (none, some a, [])
    | none => (none, none, [c])
  | [] => (none, none, [])

def takeSign : List Char → Option SignRule × List Char
  | '+' :: r => (some .plus, r)
  | ' ' :: r => (some .blank, r)
  | '-' :: r => (some .onlyMinus, r)
  | s => (none, s)

/-- Whether a mark stands at the start, and what follows it. -/
def takeMark (mark : Char) : List Char → Bool × List Char
  | c :: r => if c = mark then (true, r) else (false, c :: r)
  | [] => (false, [])

/-- The number at the start of a text, if a digit stands there. -/
def takeNumber (s : List Char) : Except LayoutError (Option Nat × List Char) :=
  match spanDigits s with
  | ([], _) => .ok (none, s)
  | (ds, rest) =>
    if maxPosition < ofDigits ds then .error .tooManyDigits
    else .ok (some (ofDigits ds), rest)

/-- The separator of groups of digits: a comma or an underscore, not both. -/
def takeSeparator : List Char → Except LayoutError (Option Char × List Char)
  | ',' :: '_' :: _ => .error .groupedTwice
  | '_' :: ',' :: _ => .error .groupedTwice
  | ',' :: r => .ok (some ',', r)
  | '_' :: r => .ok (some '_', r)
  | s => .ok (none, s)

def takePrecision : List Char → Except LayoutError (Option Nat × List Char)
  | '.' :: r => do
    let (n, rest) ← takeNumber r
    match n with
    | some n => return (some n, rest)
    | none => throw .precisionMissing
  | s => .ok (none, s)

/-- Whether digits written as `type` may be grouped by a separator. -/
def isGroupable (separator type : Char) : Bool :=
  type ∈ ['d', 'e', 'f', 'g', 'E', 'G', '%', 'F'] ||
    (separator = '_' && type ∈ ['b', 'o', 'x', 'X'])

def Layout.read (kind : ArgKind) (s : List Char) : Except LayoutError Layout := do
  let (fill, align, r) := takeAlign s
  let (sign, r) := takeSign r
  let (unsignedZero, r) := takeMark 'z' r
  let (alternate, r) := takeMark '#' r
  -- A zero in front of the width fills with zeros, after the sign where numbers stand.
  let (zeros, r) := if fill.isNone then takeMark '0' r else (false, r)
  let align := align.getD (if zeros && kind = .number then .afterSign else kind.align)
  let fill := fill.getD (if zeros then '0' else ' ')
  let (width, r) ← takeNumber r
  let (separator, r) ← takeSeparator r
  let (precision, r) ← takePrecision r
  let type ← match r with
    | [] => pure kind.type
    | [c] => pure c
    | _ => throw (.notALayout s kind)
  if let some c := separator then
    if !isGroupable c type then throw (.notGroupable c type)
  return { fill, align, sign, unsignedZero, alternate, width := width.getD 0, separator,
           precision, type }

/-! ## Setting -/

def pad (fill : Char) (align : Align) (width : Nat) (s : List Char) : List Char :=
  let missing := width - s.length
  let before := match align with
    | .right => missing
    | .center => missing / 2
    | .left | .afterSign => 0
  List.replicate before fill ++ s ++ List.replicate (missing - before) fill

/-- Sets a text: it may be cut, and is filled up to the width. -/
def Layout.setText (l : Layout) (s : List Char) : Except LayoutError (List Char) := do
  if l.type ≠ 's' then throw (.unknownType l.type .text)
  if let some rule := l.sign then throw (.signedText (rule = .blank))
  if l.unsignedZero then throw .unsignedZeroText
  if l.alternate then throw .alternateText
  if l.align = .afterSign then throw .signAlignedText
  let shown := match l.precision with
    | some n => s.take n
    | none => s
  return pad l.fill l.align l.width shown

/-- Groups of digits from the last one on, the list running from the last digit to the
first: each group has `size + 1` digits, and zeros are added in front until the whole
reaches `width`. -/
def groupReversed (size : Nat) (separator : Char) : Nat → Nat → List Char → List Char
  | 0, _, ds => ds
  | fuel + 1, width, ds =>
    let len := min (size + 1) (max (max ds.length width) 1)
    let group := ds.take len ++ List.replicate (len - ds.length) '0'
    let rest := ds.drop len
    if rest.isEmpty && width ≤ len then group
    else group ++ separator :: groupReversed size separator fuel (width - len - 1) rest

/-- Digits, grouped if a separator is given, with zeros in front up to a width. -/
def groupDigits (groupSize : Nat) (separator : Option Char) (width : Nat) (ds : List Char) :
    List Char :=
  match separator with
  | none => List.replicate (width - ds.length) '0' ++ ds
  | some c =>
    (groupReversed (groupSize - 1) c (ds.length + width + 1) width ds.reverse).reverse

/-- A number in parts: its sign, what names its base, its digits, and what follows
them. A character is a number without digits. -/
structure NumberText where
  negative : Bool := false
  base : List Char := []
  digits : List Char := []
  tail : List Char := []

def Layout.signText (l : Layout) (negative : Bool) : List Char :=
  if negative then ['-']
  else match l.sign with
    | some .plus => ['+']
    | some .blank => [' ']
    | _ => []

def Layout.setNumber (l : Layout) (groupSize : Nat) (n : NumberText) : List Char :=
  let start := l.signText n.negative ++ n.base
  let around := start.length + n.tail.length
  -- Zeros that fill the width are grouped as digits are.
  let zeros := if l.fill = '0' ∧ l.align = .afterSign then l.width - around else 0
  let digits := if n.digits.isEmpty then [] else groupDigits groupSize l.separator zeros n.digits
  match l.align with
  | .afterSign =>
    start ++ List.replicate (l.width - (around + digits.length)) l.fill ++ digits ++ n.tail
  | align => pad l.fill align l.width (start ++ digits ++ n.tail)

end TelephonyAlerts.Template
