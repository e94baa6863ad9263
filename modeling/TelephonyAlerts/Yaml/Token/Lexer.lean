import TelephonyAlerts.Yaml.Token.Name
import TelephonyAlerts.Yaml.Token.Plain

/-!
# Tokens of a text

A block collection starts where a line is indented more than the collections around it
and ends where one is indented less. Before a scalar, a tag, an anchor, an alias or a
bracket a key may start that nothing announces; only the colon behind it, on the same
line and not far away, tells that it was one, and then the token that announces a key
is put in front of it. Where no other reading is possible a key that stays without its
colon is a fault.
-/

namespace TelephonyAlerts.Yaml

structure PossibleKey where
  /-- How many tokens stand before it. -/
  number : Nat
  /-- Whether nothing but a key can stand there. -/
  isRequired : Bool
  start : Cursor

structure Lexer where
  cursor : Cursor
  /-- The latest token comes first. -/
  tokens : List Token := []
  /-- The columns of the open block collections, the innermost first. -/
  indents : List Nat := []
  /-- The key that may have started in the innermost brackets. -/
  key : Option PossibleKey := none
  /-- Those that may have started in the brackets around them and outside of all. -/
  outerKeys : List (Option PossibleKey) := []
  /-- Whether a key may start here that nothing announces. -/
  allowsKey : Bool := true

namespace Lexer

/-- A key that nothing announces is not longer than this. -/
def longestKey : Nat := 1024

def inFlow (l : Lexer) : Bool := !l.outerKeys.isEmpty

def scalarIndent (l : Lexer) : Nat :=
  match l.indents with
  | n :: _ => n + 1
  | [] => 0

def emit (l : Lexer) (t : Token) : Lexer := { l with tokens := t :: l.tokens }

def emitMark (l : Lexer) (t : Token) (length : Nat) : Lexer :=
  { l.emit t with cursor := l.cursor.forwardBy length }

/-- The lexer with a token before the latest ones, all but the first `number`. -/
def announce (l : Lexer) (number : Nat) (t : Token) : Lexer :=
  let later := l.tokens.length - number
  { l with tokens := l.tokens.take later ++ t :: l.tokens.drop later }

/-! ## Indentation -/

/-- Ends the block collections that are indented by more than `column`. -/
def endBlocks (column : Nat) : List Nat → List Token → List Nat × List Token
  | n :: ns, ts => if column < n then endBlocks column ns (.blockEnd :: ts) else (n :: ns, ts)
  | [], ts => ([], ts)

/-- Ends the block collections that a line indented by `column` is not part of. -/
def unwind (l : Lexer) (column : Nat) : Lexer :=
  if l.inFlow then l
  else
    let (indents, tokens) := endBlocks column l.indents l.tokens
    { l with indents, tokens }

def unwindAll (l : Lexer) : Lexer :=
  if l.inFlow then l
  else { l with indents := [], tokens := l.indents.map (fun _ => Token.blockEnd) ++ l.tokens }

def indentsMore (l : Lexer) (column : Nat) : Bool := l.indents.head?.all (· < column)

/-- Starts a block collection at a column, unless one is open there; its token comes
behind the first `number`. -/
def startBlock (l : Lexer) (column number : Nat) (t : Token) : Lexer :=
  if !l.inFlow && l.indentsMore column then
    { l.announce number t with indents := column :: l.indents }
  else l

/-! ## Keys -/

def isStale (c : Cursor) (k : PossibleKey) : Bool :=
  k.start.line != c.line || longestKey < c.index - k.start.index

/-- A key that is not too far away; it is a fault to lose a required one. -/
def refreshKey (c : Cursor) : Option PossibleKey → Except Fault (Option PossibleKey)
  | none => .ok none
  | some k =>
    if !isStale c k then .ok (some k)
    else if k.isRequired then .error .malformed
    else .ok none

def refreshKeys (l : Lexer) : Except Fault Lexer := do
  let key ← refreshKey l.cursor l.key
  let outerKeys ← l.outerKeys.mapM (refreshKey l.cursor)
  return { l with key, outerKeys }

def dropKey (l : Lexer) : Except Fault Lexer :=
  match l.key with
  | some k => if k.isRequired then .error .malformed else .ok { l with key := none }
  | none => .ok l

def markKey (l : Lexer) : Except Fault Lexer := do
  if !l.allowsKey then return l
  let l ← l.dropKey
  -- At the column of a collection nothing but one of its keys can start a line.
  let isRequired := !l.inFlow && l.indents.head? = some l.cursor.column
  return { l with key := some ⟨l.tokens.length, isRequired, l.cursor⟩ }

/-! ## Tokens -/

/-- Behind the spaces, comments and line breaks before a token. -/
def skipToToken : Nat → Lexer → Lexer
  | 0, l => l
  | fuel + 1, l =>
    let c := l.cursor.skipSpaces.skipComment
    match c.lineBreak? with
    | some (_, c) =>
      -- A line break outside of brackets allows for a key.
      skipToToken fuel { l with cursor := c, allowsKey := l.allowsKey || !l.inFlow }
    | none => { l with cursor := c }

/-- A directive, or the start or the end of a document. -/
def readMark (l : Lexer) (t : Token) (next : Cursor) : Except Fault Lexer := do
  let l ← l.unwindAll.dropKey
  return { l.emit t with cursor := next, allowsKey := false }

/-- A token that may be a key or start one. -/
def readNode (l : Lexer) (t : Token) (next : Cursor) : Except Fault Lexer := do
  let l ← l.markKey
  return { l.emit t with cursor := next, allowsKey := false }

def openFlow (l : Lexer) (t : Token) : Except Fault Lexer := do
  let l ← l.markKey
  return { l.emitMark t 1 with key := none, outerKeys := l.key :: l.outerKeys, allowsKey := true }

def closeFlow (l : Lexer) (t : Token) : Except Fault Lexer := do
  let l ← l.dropKey
  match l.outerKeys with
  | key :: outerKeys => return { l.emitMark t 1 with key, outerKeys, allowsKey := false }
  | [] => throw .malformed

def readFlowEntry (l : Lexer) : Except Fault Lexer := do
  let l ← l.dropKey
  return { l.emitMark .flowEntry 1 with allowsKey := true }

def readBlockEntry (l : Lexer) : Except Fault Lexer := do
  if !l.inFlow && !l.allowsKey then throw .malformed
  let l ← (l.startBlock l.cursor.column l.tokens.length .blockSequenceStart).dropKey
  return { l.emitMark .blockEntry 1 with allowsKey := true }

/-- A question mark that announces a key. -/
def readKey (l : Lexer) : Except Fault Lexer := do
  if !l.inFlow && !l.allowsKey then throw .malformed
  let l ← (l.startBlock l.cursor.column l.tokens.length .blockMappingStart).dropKey
  return { l.emitMark .key 1 with allowsKey := !l.inFlow }

/-- A colon. -/
def readValue (l : Lexer) : Except Fault Lexer := do
  match l.key with
  | some k =>
    -- What stands before the colon was a key that nothing announced.
    let l := (l.announce k.number .key).startBlock k.start.column k.number .blockMappingStart
    return { l.emitMark .value 1 with key := none, allowsKey := false }
  | none =>
    -- The key was announced, or it is missing.
    if !l.inFlow && !l.allowsKey then throw .malformed
    let l := l.startBlock l.cursor.column l.tokens.length .blockMappingStart
    return { l.emitMark .value 1 with allowsKey := !l.inFlow }

def readBlockScalar (l : Lexer) (isFolded : Bool) : Except Fault Lexer := do
  let l ← l.dropKey
  let (text, next) ← l.cursor.block isFolded l.scalarIndent
  return { l.emit (.scalar (String.ofList text) false) with cursor := next, allowsKey := true }

def readQuoted (l : Lexer) (style : Quoted.Style) : Except Fault Lexer := do
  let (text, next) ← l.cursor.quoted style
  l.readNode (.scalar (String.ofList text) false) next

def readPlain (l : Lexer) : Except Fault Lexer := do
  let (text, breaks, next) := l.cursor.plain l.inFlow l.scalarIndent
  let l ← l.readNode (.scalar (String.ofList text) true) next
  -- A line break behind the scalar allows for a key.
  return { l with allowsKey := breaks }

def startsPlain (l : Lexer) (ch : Char) : Bool :=
  !(isSpace ch || isBreak ch || "-?:,[]\x7b\x7d#&*!|>\x27\x22%@\x60".toList.contains ch) ||
    (!endsIndicator (l.cursor.peekAt 1) && (ch = '-' || (!l.inFlow && (ch = '?' || ch = ':'))))

/-- Whether an indicator of block collections stands here: anything may follow it in
brackets. -/
def atIndicator (l : Lexer) : Bool := l.inFlow || endsIndicator (l.cursor.peekAt 1)

def readToken (l : Lexer) (ch : Char) : Except Fault Lexer := do
  let c := l.cursor
  let atStart := c.column = 0
  if ch = '%' ∧ atStart then
    let (d, next) ← c.directive
    l.readMark (.directive d) next
  else if atStart ∧ c.atMark "---" then l.readMark .documentStart (c.forwardBy 3)
  else if atStart ∧ c.atMark "..." then l.readMark .documentEnd (c.forwardBy 3)
  else if ch = '[' then l.openFlow .flowSequenceStart
  else if ch = '\x7b' then l.openFlow .flowMappingStart
  else if ch = ']' then l.closeFlow .flowSequenceEnd
  else if ch = '\x7d' then l.closeFlow .flowMappingEnd
  else if ch = ',' then l.readFlowEntry
  else if ch = '-' ∧ endsIndicator (c.peekAt 1) then l.readBlockEntry
  else if ch = '?' ∧ l.atIndicator then l.readKey
  else if ch = ':' ∧ l.atIndicator then l.readValue
  else if ch = '*' then
    let (name, next) ← c.anchorName
    l.readNode (.alias name) next
  else if ch = '&' then
    let (name, next) ← c.anchorName
    l.readNode (.anchor name) next
  else if ch = '!' then
    let (t, next) ← c.tag
    l.readNode (.tag t) next
  else if ch = '|' ∧ !l.inFlow then l.readBlockScalar false
  else if ch = '>' ∧ !l.inFlow then l.readBlockScalar true
  else if ch = Quoted.Style.single.mark then l.readQuoted .single
  else if ch = Quoted.Style.double.mark then l.readQuoted .double
  else if l.startsPlain ch then l.readPlain
  else throw .malformed

/-- The tokens that are settled: none of them may turn out to be in a key. -/
def settled (l : Lexer) : List Token :=
  let starts := (l.key :: l.outerKeys).filterMap fun k =>
    (k.filter (!isStale l.cursor ·)).map (·.number)
  l.tokens.reverse.take (starts.foldl min l.tokens.length)

/-- Reads all tokens there are; a fault ends them early, behind those that were settled
before it was met. -/
def run : Nat → Lexer → List Token × Except Fault Unit
  | 0, l => (l.settled, .error .malformed)
  | fuel + 1, before =>
    let l := skipToToken (before.cursor.rest.length + 1) before
    match l.refreshKeys with
    | .error e => (before.settled, .error e)
    | .ok l =>
      let l := l.unwind l.cursor.column
      match l.cursor.peek with
      | none =>
        let l := l.unwindAll
        (l.tokens.reverse, l.dropKey.map fun _ => ())
      | some ch =>
        match l.readToken ch with
        | .ok l => run fuel l
        | .error e => (before.settled, .error e)

end Lexer

/-- The tokens of a text, and the fault that ends them, if one does. -/
def tokens (text : List Char) : List Token × Except Fault Unit :=
  let start : Cursor := { rest := text }
  -- A mark of the order of bytes does not count where it opens the text.
  let start := if start.peek = some orderMark then start.forward else start
  Lexer.run (text.length + 1) { cursor := start }

end TelephonyAlerts.Yaml
