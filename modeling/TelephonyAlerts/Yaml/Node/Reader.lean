import TelephonyAlerts.Data.Assoc
import TelephonyAlerts.Yaml.Node
import TelephonyAlerts.Yaml.Token

/-!
# Nodes from tokens

A text holds one document or none. What may be left out, a key, a value or an item, is
an empty scalar. An anchor is given once, and an alias follows its anchor.
-/

namespace TelephonyAlerts.Yaml

open TelephonyAlerts.Data

/-- What an anchor stands for: a collection that is still being read, or a node. -/
inductive Anchored
  | unfinished (isMap : Bool)
  | node (n : Node)

/-- The tokens to come and what those before them have set. -/
structure ReaderState where
  tokens : List Token
  /-- The fault behind the tokens, if a fault ended them. -/
  ending : Except Fault Unit
  handles : Assoc String String := []
  anchors : Assoc String Anchored := []

abbrev Reader := StateT ReaderState (Except Fault)

namespace Reader

/-! ## Tokens -/

/-- The next token; `none` at the end of the text. -/
def peek : Reader (Option Token) := do
  let s ← get
  match s.tokens with
  | t :: _ => return some t
  | [] =>
    s.ending
    return none

def sees (ts : List Token) : Reader Bool := return (← peek).any ts.contains

def advance : Reader Unit := modify fun s => { s with tokens := s.tokens.tail }

def take? (t : Token) : Reader Bool := do
  let found ← sees [t]
  if found then advance
  return found

def expect (t : Token) : Reader Unit := do
  if !(← take? t) then throw .malformed

/-! ## Tags and anchors -/

def standardTag (name : String) : String := "tag:yaml.org,2002:" ++ name

/-- What handles stand for where no directive says otherwise. -/
def standardHandles : Assoc String String := [("!", "!"), ("!!", standardTag "")]

def tagName (t : WrittenTag) : Reader String := do
  match t.handle with
  | none => return t.suffix
  | some h =>
    match (← get).handles.get? h with
    | some expansion => return expansion ++ t.suffix
    | none => throw .malformed

/-- An anchor and a tag, in either order and each of them optional. -/
def properties : Reader (Option String × Option String) := do
  match ← peek with
  | some (.anchor a) =>
    advance
    match ← peek with
    | some (.tag t) =>
      advance
      return (some a, some (← tagName t))
    | _ => return (some a, none)
  | some (.tag t) =>
    advance
    match ← peek with
    | some (.anchor a) =>
      advance
      return (some a, some (← tagName t))
    | _ => return (none, some (← tagName t))
  | _ => return (none, none)

/-- How a scalar with a tag is read; `isPlain` tells whether no quotes were needed. -/
def reading (tag : Option String) (isPlain : Bool) : Reading :=
  match tag with
  | none => if isPlain then .implicit else .text
  | some t =>
    let kinds : List (String × Reading) :=
      [("!", .implicit), (standardTag "str", .text), (standardTag "null", .kind .null),
       (standardTag "bool", .kind .bool), (standardTag "int", .kind .int),
       (standardTag "float", .kind .float), (standardTag "timestamp", .kind .time)]
    (kinds.lookup t).getD .unknown

/-- Whether a tag is that of a kind of collections, or leaves the choice. -/
def isTagOf (name : String) (tag : Option String) : Bool :=
  tag.all fun t => t == "!" || t == standardTag name

def setAnchor (name : Option String) (a : Anchored) : Reader Unit :=
  match name with
  | some n => modify fun s => { s with anchors := s.anchors.insert n a }
  | none => return ()

/-- It is a fault to give an anchor twice. -/
def checkAnchor (name : Option String) : Reader Unit := do
  match name with
  | some n => if ((← get).anchors.get? n).isSome then throw .malformed
  | none => return ()

def aliased (name : String) : Reader Node := do
  match (← get).anchors.get? name with
  | some (.node n) => return n
  | some (.unfinished isMap) => return .loop isMap
  | none => throw .malformed

def anchoring (name : Option String) (n : Node) : Reader Node := do
  setAnchor name (.node n)
  return n

/-! ## Nodes -/

/-- Where a node stands: inside brackets, as an item or as the value of a key. -/
inductive Place
  | flow
  | block
  | entry
  deriving DecidableEq, Repr

mutual

def node : Nat → Place → Reader Node
  | 0, _ => throw .malformed
  | fuel + 1, place => do
    if let some (.alias name) ← peek then
      advance
      return ← aliased name
    let (anchor, tag) ← properties
    let next ← peek
    checkAnchor anchor
    -- Only behind a key may the items of a sequence stand without an indentation.
    if place = .entry ∧ next = some .blockEntry then
      setAnchor anchor (.unfinished false)
      anchoring anchor (.sequence (isTagOf "seq" tag) (← flushItems fuel))
    else
      match next, place with
      | some (.scalar text isPlain), _ =>
        advance
        anchoring anchor (.scalar (reading tag isPlain) text)
      | some .flowSequenceStart, _ =>
        advance
        setAnchor anchor (.unfinished false)
        anchoring anchor (.sequence (isTagOf "seq" tag) (← flowItems fuel true))
      | some .flowMappingStart, _ =>
        advance
        setAnchor anchor (.unfinished true)
        anchoring anchor (.mapping (isTagOf "map" tag) (← flowEntries fuel true))
      | some .blockSequenceStart, .block | some .blockSequenceStart, .entry =>
        advance
        setAnchor anchor (.unfinished false)
        anchoring anchor (.sequence (isTagOf "seq" tag) (← blockItems fuel))
      | some .blockMappingStart, .block | some .blockMappingStart, .entry =>
        advance
        setAnchor anchor (.unfinished true)
        anchoring anchor (.mapping (isTagOf "map" tag) (← blockEntries fuel))
      | _, _ =>
        -- An anchor or a tag may stand for an empty scalar.
        if anchor.isSome || tag.isSome then anchoring anchor (.scalar (reading tag true) "")
        else throw .malformed

/-- A node, or an empty one before a token of a list. -/
def nodeBefore : Nat → Place → List Token → Reader Node
  | 0, _, _ => throw .malformed
  | fuel + 1, place, ends => do
    if ← sees ends then return .empty else node fuel place

/-- The node behind a token, or an empty one before a token of a list or where that
token is missing. -/
def nodeAfter : Nat → Token → Place → List Token → Reader Node
  | 0, _, _, _ => throw .malformed
  | fuel + 1, t, place, ends => do
    if ← take? t then nodeBefore fuel place ends else return .empty

def blockItems : Nat → Reader (List Node)
  | 0 => throw .malformed
  | fuel + 1 => do
    if ← take? .blockEntry then
      let item ← nodeBefore fuel .block [.blockEntry, .blockEnd]
      return item :: (← blockItems fuel)
    else
      expect .blockEnd
      return []

/-- The items of a sequence that is not indented; nothing marks its end. -/
def flushItems : Nat → Reader (List Node)
  | 0 => throw .malformed
  | fuel + 1 => do
    if ← take? .blockEntry then
      let item ← nodeBefore fuel .block [.blockEntry, .key, .value, .blockEnd]
      return item :: (← flushItems fuel)
    else return []

def blockEntries : Nat → Reader (List (Node × Node))
  | 0 => throw .malformed
  | fuel + 1 => do
    if ← take? .key then
      let ends : List Token := [.key, .value, .blockEnd]
      let key ← nodeBefore fuel .entry ends
      let value ← nodeAfter fuel .value .entry ends
      return (key, value) :: (← blockEntries fuel)
    else
      expect .blockEnd
      return []

def flowItems : Nat → Bool → Reader (List Node)
  | 0, _ => throw .malformed
  | fuel + 1, first => do
    if ← take? .flowSequenceEnd then return []
    if !first then expect .flowEntry
    -- An item may be a mapping of one entry.
    if ← take? .key then
      let key ← nodeBefore fuel .flow [.value, .flowEntry, .flowSequenceEnd]
      let value ← nodeAfter fuel .value .flow [.flowEntry, .flowSequenceEnd]
      return .mapping true [(key, value)] :: (← flowItems fuel false)
    else if ← take? .flowSequenceEnd then return []
    else
      let item ← node fuel .flow
      return item :: (← flowItems fuel false)

def flowEntries : Nat → Bool → Reader (List (Node × Node))
  | 0, _ => throw .malformed
  | fuel + 1, first => do
    if ← take? .flowMappingEnd then return []
    if !first then expect .flowEntry
    if ← take? .key then
      let key ← nodeBefore fuel .flow [.value, .flowEntry, .flowMappingEnd]
      let value ← nodeAfter fuel .value .flow [.flowEntry, .flowMappingEnd]
      return (key, value) :: (← flowEntries fuel false)
    else if ← take? .flowMappingEnd then return []
    else
      -- A key may stand without a value.
      let key ← node fuel .flow
      return (key, .empty) :: (← flowEntries fuel false)

end

/-! ## Documents -/

/-- The directives before a document: one version, which must be a version 1, and the
handles of tags, each of them once. -/
def directives : Nat → Bool → Reader Unit
  | 0, _ => throw .malformed
  | fuel + 1, hasVersion => do
    if let some (.directive d) ← peek then
      advance
      match d with
      | .version major _ =>
        if hasVersion || major != 1 then throw .malformed
        directives fuel true
      | .handle h expansion =>
        if ((← get).handles.get? h).isSome then throw .malformed
        modify fun s => { s with handles := s.handles ++ [(h, expansion)] }
        directives fuel hasVersion
      | .reserved => directives fuel hasVersion

def skipEnds : Nat → Reader Unit
  | 0 => return ()
  | fuel + 1 => do
    if ← take? .documentEnd then skipEnds fuel

/-- Whether the next token starts a document that nothing announces. -/
def startsBare : Option Token → Bool
  | none | some (.directive _) | some .documentStart => false
  | some _ => true

/-- The node of an announced document, which may be empty. -/
def content (fuel : Nat) : Reader Node := do
  match ← peek with
  | none | some (.directive _) | some .documentStart | some .documentEnd => return .empty
  | some _ => node fuel .block

/-- What goes on behind a document is a fault; directives are read before that is seen. -/
def second (fuel : Nat) : Reader Unit := do
  modify fun s => { s with handles := [] }
  directives fuel false
  let _ ← peek
  throw .malformed

def document (fuel : Nat) : Reader (Option Node) := do
  let first ← peek
  if first.isNone then return none
  let n ←
    if startsBare first then do
      modify fun s => { s with handles := standardHandles }
      node fuel .block
    else do
      directives fuel false
      modify fun s => { s with handles := s.handles ++ standardHandles }
      expect .documentStart
      content fuel
  skipEnds fuel
  if (← peek).isSome then second fuel
  return some n

end Reader

/-- The node of the document that tokens make up, if there is one. -/
def Node.ofTokens (tokens : List Token × Except Fault Unit) : Except Fault (Option Node) :=
  -- Each reader either takes a token or hands over to another at most twice.
  ((Reader.document (3 * tokens.1.length + 4)).run
    { tokens := tokens.1, ending := tokens.2 }).map (·.1)

end TelephonyAlerts.Yaml
