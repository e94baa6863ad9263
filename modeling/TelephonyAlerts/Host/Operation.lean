import TelephonyAlerts.Alert.Payload
import TelephonyAlerts.Failure
import TelephonyAlerts.Host.Device

/-!
# Operations

An operation of a component reads and changes the component's own state and talks to
the host: it shows and cancels alerts, looks things up, records decisions and writes
log rows. Everything it did before it fails stays done, its own state included.
-/

namespace TelephonyAlerts

open TelephonyAlerts.Data

/-! ## What an operation leaves behind -/

/-- A call to the part of the host that shows alerts. -/
inductive ShellCall
  | present (address : Address) (alert : Alert) (user : Int)
  | cancel (address : Address) (user : Int)
  | showTransient (text : String)
  | cancelTransient
  deriving DecidableEq, Repr

inductive Level
  | debug
  | info
  | warning
  | critical
  deriving DecidableEq, Repr

inductive Source
  | delivery
  | lines
  | network
  | desk
  deriving DecidableEq, Repr

/-- A row of the log. Its text is made when the row is taken, after the operation went
on, so a number in it that is too long to be written keeps no operation from ending. -/
structure LogRow where
  level : Level
  source : Source
  text : String
  deriving DecidableEq, Repr

/-- What an operation did at the host, in order: calls that show and cancel, records
handed to the callback, and log rows. -/
structure Journal where
  calls : List ShellCall := []
  records : List Record := []
  rows : List LogRow := []
  deriving DecidableEq, Repr

/-! ## What surrounds an operation -/

/-- A method that fails, after some more calls that do not. -/
structure Fault where
  after : Nat
  failure : Failure

/-- The host as an operation finds it, and what was done at it so far. -/
structure Session where
  device : Device
  faults : Method → Option Fault := fun _ => none
  draws : Draws := {}
  sink : Sink := .callback
  journal : Journal := {}

namespace Session

/-- Calls a method of the host: it may fail, and a failure still to come moves nearer. -/
def call (m : Method) (s : Session) : Except Failure Unit × Session :=
  match s.faults m with
  | none => (.ok (), s)
  | some f =>
    match f.after with
    | 0 => (.error f.failure, s)
    | n + 1 =>
      let f' : Fault := { f with after := n }
      (.ok (), { s with faults := fun m' => if m' = m then some f' else s.faults m' })

end Session

/-- An operation of a component whose own state is a `σ`. -/
abbrev Op (σ : Type) := ExceptT Failure (StateM (σ × Session))

namespace Op

variable {σ τ α : Type}

def own : Op σ σ := do return (← get).1

def modifyOwn (f : σ → σ) : Op σ Unit := modify fun (s, e) => (f s, e)

def session : Op σ Session := do return (← get).2

def modifySession (f : Session → Session) : Op σ Unit := modify fun (s, e) => (s, f e)

def device : Op σ Device := do return (← session).device

/-- Runs an operation of a part on the whole that holds it. -/
def within (part : τ → σ) (setPart : σ → τ → τ) (op : Op σ α) : Op τ α := fun (whole, e) =>
  let (result, own, e') := op (part whole, e)
  (result, setPart own whole, e')

def ofExcept {ε : Type} (failure : ε → Failure) : Except ε α → Op σ α
  | .ok a => pure a
  | .error e => throw (failure e)

def ofRender (x : Except Template.RenderError α) : Op σ α := ofExcept .render x

/-- The result of an operation, or the thing that it could not resolve; any other
failure stays one. -/
def resolving (op : Op σ α) : Op σ (Except Unresolved α) :=
  tryCatch (do return .ok (← op)) fun
    | .unresolved u => return .error u
    | e => throw e

/-! ## Talking to the host -/

def call (m : Method) : Op σ Unit := do
  let (result, e) := (← session).call m
  modifySession fun _ => e
  ofExcept id result

def log (level : Level) (source : Source) (text : String) : Op σ Unit :=
  modifySession fun e =>
    { e with journal := { e.journal with rows := e.journal.rows ++ [⟨level, source, text⟩] } }

def note (c : ShellCall) : Op σ Unit :=
  modifySession fun e => { e with journal := { e.journal with calls := e.journal.calls ++ [c] } }

/-- Shows an alert to a user, in place of any that stands at the address. -/
def present (address : Address) (alert : Alert) (user : Int) : Op σ Unit := do
  call .present
  note (.present address alert user)

/-- Takes the alert at an address away from a user, or from all. -/
def cancel (address : Address) (user : Int) : Op σ Unit := do
  call .cancel
  note (.cancel address user)

def showTransient (text : String) : Op σ Unit := do
  if (← device).showsTransients then
    call .showTransient
    note (.showTransient text)

def cancelTransient : Op σ Unit := do
  if (← device).showsTransients then
    call .cancelTransient
    note .cancelTransient

def profiles : Op σ (List Profile) := do
  call .profiles
  return (← device).profiles

def phone (line : Int) : Op σ Phone := do
  call .phone
  ofExcept id (require ((← device).phones.get? line) "phone" (.int line))

/-- What the directory answers for a line. -/
def line (key : Int) : Op σ Line := do
  call .line
  ofExcept id (require ((← device).lines.get? key) "subscription" (.int key))

/-- A stored preference, or an empty text. A key that cannot be written is not asked for. -/
def preference (key : Except Number.TooManyDigits String) : Op σ String := do
  let key ← ofExcept .unwritable key
  call .preference
  return (← device).preference key

/-! ## Recording decisions -/

/-- Hands a record to the sink. -/
def emit (r : Record) : Op σ Unit := do
  match (← session).sink with
  -- Only a callback can fail.
  | .callback =>
    call .record
    modifySession fun e =>
      { e with journal := { e.journal with records := e.journal.records ++ [r] } }
  | _ => modifySession fun e => { e with sink := e.sink.add r }

def record (sampling : Sampling) (d : Decision) : Op σ Unit := do
  let (selected, draws) := sampling.selects (← session).draws
  -- What was drawn stays drawn even if nothing is recorded.
  modifySession fun e => { e with draws }
  if ← ofExcept .sampling selected then
    emit ⟨d, (← device).now⟩

end Op

/-! ## Changes and reports -/

/-- What can change at the host between two operations. -/
inductive Session.Change
  | device (c : Device.Change)
  /-- A method fails from now on. -/
  | fault (m : Method) (f : Fault)
  | noFaults

def Session.apply (s : Session) : Session.Change → Session
  | .device c => { s with device := s.device.apply c }
  | .fault m f => { s with faults := fun m' => if m' = m then some f else s.faults m' }
  | .noFaults => { s with faults := fun _ => none }

/-- What an operation tells of itself: its result and what it did at the host. One that fails
reports what it did before. -/
structure Report (α : Type) where
  result : Except Failure α
  journal : Journal := {}

namespace Op

variable {σ α : Type}

/-- Runs an operation; answers with its report and the state it leaves. -/
def report (op : Op σ α) (state : σ × Session) : Report α × (σ × Session) :=
  let (result, own, e) := op (state.1, { state.2 with journal := {} })
  (⟨result, e.journal⟩, own, e)

def change (c : Session.Change) : Op σ Unit := modifySession fun e => e.apply c

end Op

/-- What operations of one desk have in common: the wording in use, and which decisions
are recorded. -/
structure Context where
  wording : Wording := {}
  sampling : Sampling := {}

end TelephonyAlerts
