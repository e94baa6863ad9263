import TelephonyAlerts.Yaml.Node.Reader
import TelephonyAlerts.Yaml.Scalar
import TelephonyAlerts.Yaml.Token.Lexer

/-!
# Data of a document

A mapping takes over the entries of the mappings that its merging keys name, in front
of its own, so its own values win; of several in one list the first wins. Faults of
values count from the outside in: of all there are, the first one at the least depth is
the fault of the document.
-/

namespace TelephonyAlerts.Yaml

open TelephonyAlerts.Data

/-- A fault at a depth below the root. -/
structure Found where
  depth : Nat
  fault : Fault

/-- The first of the faults at the least depth. -/
def Found.first? (fs : List Found) : Option Found :=
  fs.foldl (fun best f => match best with
    | some b => if f.depth < b.depth then some f else some b
    | none => some f) none

/-- What a node stands for, and the faults in it. -/
structure Loaded where
  value : Datum
  faults : List Found := []

/-- The entries of a mapping, in the order in which they are entered, and the faults in
them: those of merging before all others. -/
structure LoadedEntries where
  merged : List (Datum × Datum) := []
  own : List (Datum × Datum) := []
  mergeFaults : List Found := []
  mergedFaults : List Found := []
  ownFaults : List Found := []

namespace LoadedEntries

def all (e : LoadedEntries) : List (Datum × Datum) := e.merged ++ e.own

def faults (e : LoadedEntries) : List Found := e.mergeFaults ++ e.mergedFaults ++ e.ownFaults

/-- Entries with those of a mapping that is merged in before the ones they hold. -/
def merging (e m : LoadedEntries) : LoadedEntries :=
  { e with
    merged := m.all ++ e.merged
    mergeFaults := m.mergeFaults ++ e.mergeFaults
    mergedFaults := m.mergedFaults ++ m.ownFaults ++ e.mergedFaults }

/-- Entries that are merged in, with those of one more mapping behind them. -/
def followedBy (e m : LoadedEntries) : LoadedEntries :=
  { e with
    merged := e.merged ++ m.all
    mergeFaults := e.mergeFaults ++ m.mergeFaults
    mergedFaults := e.mergedFaults ++ m.mergedFaults ++ m.ownFaults }

/-- Entries behind one of their own. -/
def adding (e : LoadedEntries) (depth : Nat) (key value : Loaded) : LoadedEntries :=
  -- A collection cannot be a key.
  let keyFaults := if key.value.isKey then [] else [⟨depth, .malformed⟩]
  { e with
    own := (key.value, value.value) :: e.own
    ownFaults := key.faults ++ keyFaults ++ value.faults ++ e.ownFaults }

end LoadedEntries

mutual

def load (depth : Nat) : Node → Loaded
  | .scalar r text =>
    match Scalar.value r text with
    | .ok d => ⟨d, []⟩
    | .error f => ⟨.null, [⟨depth, f⟩]⟩
  | .sequence known items =>
    if known then
      let loaded := loadItems (depth + 1) items
      ⟨.list (loaded.map (·.value)), loaded.flatMap (·.faults)⟩
    else ⟨.null, [⟨depth, .malformed⟩]⟩
  | .mapping known entries =>
    if known then
      let loaded := loadEntries (depth + 1) entries
      ⟨.map (Datum.entriesOf loaded.all), loaded.faults⟩
    else ⟨.null, [⟨depth, .malformed⟩]⟩
  | .loop isMap => ⟨.loop isMap, []⟩

def loadItems (depth : Nat) : List Node → List Loaded
  | [] => []
  | n :: rest => load depth n :: loadItems depth rest

def loadEntries (depth : Nat) : List (Node × Node) → LoadedEntries
  | [] => {}
  | (k, v) :: rest =>
    let others := loadEntries depth rest
    if k.isMerge then others.merging (loadMerged depth v)
    else
      let key : Loaded := if k.isDefault then ⟨.text "=", []⟩ else load depth k
      others.adding depth key (load depth v)

/-- The entries that a merging key takes over: those of a mapping or of several. -/
def loadMerged (depth : Nat) : Node → LoadedEntries
  | .mapping _ entries => loadEntries depth entries
  | .sequence _ items => loadSeveral depth items
  | .loop true => {}
  | _ => { mergeFaults := [⟨depth, .malformed⟩] }

/-- The entries of several mappings, the last of them first. -/
def loadSeveral (depth : Nat) : List Node → LoadedEntries
  | [] => {}
  | .mapping _ entries :: rest => (loadSeveral depth rest).followedBy (loadEntries depth entries)
  | .loop true :: rest => loadSeveral depth rest
  | _ :: _ => { mergeFaults := [⟨depth, .malformed⟩] }

end

/-- The data of a text; a text without a document holds nothing. -/
def read (text : List Char) : Except Fault Datum := do
  if !text.all isAllowed then throw .malformed
  match ← Node.ofTokens (tokens text) with
  | none => return .null
  | some n =>
    let loaded := load 0 n
    match Found.first? loaded.faults with
    | some f => throw f.fault
    | none => return loaded.value

end TelephonyAlerts.Yaml
