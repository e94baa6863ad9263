import TelephonyAlerts.Desk.Basic

/-!
# Requests

What the device tells the desk, and the operation that answers each request. A request
that fails leaves what it did before it failed, at the desk and at the host.
-/

namespace TelephonyAlerts

inductive Request
  | blocked (m : Medium) (number : Option String) (time : Calendar.Moment) (matched : MatchKind)
  /-- Forget what was blocked, as far as a datum selects it. -/
  | clearBlocked (given : Data.Datum)
  | updateVoicemail (line : Int) (visible : Bool) (sound : Bool := true)
  | refreshVoicemail (line : Int)
  | updateForwarding (line : Int) (visible : Bool)
  | updateService (service : Service)
  | showRoaming
  | hideRoaming
  /-- A short-lived message, in place of any that is shown. -/
  | transient (text : String)
  deriving Repr

namespace Desk

variable {α : Type}

def onHistory (op : Op History α) : Op Desk α :=
  Op.within (·.history) (fun history d => { d with history }) op

def onVoicemail (op : Op Visibility α) : Op Desk α :=
  Op.within (·.voicemail) (fun voicemail d => { d with voicemail }) op

def onForwarding (op : Op Visibility α) : Op Desk α :=
  Op.within (·.forwarding) (fun forwarding d => { d with forwarding }) op

def onOperator (op : Op Bool α) : Op Desk α :=
  Op.within (·.operatorShown) (fun operatorShown d => { d with operatorShown }) op

/-- The operation that answers a request at a desk as it stands. -/
def answer (d : Desk) : Request → Op Desk Unit
  | .blocked m number time matched =>
    onHistory (Blocked.record d.context d.settings.tellsBlocked m number time matched)
  | .clearBlocked given => onHistory (Blocked.clear d.context given)
  | .updateVoicemail line visible sound =>
    onVoicemail (Voicemail.update d.context d.voiceCapable line visible sound)
  | .refreshVoicemail line => onVoicemail (Voicemail.refresh d.context d.voiceCapable line)
  | .updateForwarding line visible => onForwarding (Forwarding.update d.context line visible)
  | .updateService service => onOperator (Operator.update d.context service)
  | .showRoaming => Roaming.announce d.context
  | .hideRoaming => Roaming.withdraw d.context
  | .transient text => do
    Op.cancelTransient
    Op.showTransient text

def perform (r : Request) : Op Desk Unit := do answer (← Op.own) r

/-! ## Runs -/

/-- What can happen at a desk: a request, or a change of its settings or of the host. -/
inductive Step
  | request (r : Request)
  | settings (c : Change)
  | host (c : Session.Change)

def Step.op : Step → Op Desk Unit
  | .request r => perform r
  | .settings c => Op.modifyOwn (·.apply c)
  | .host c => Op.change c

/-- The reports of steps, in their order, and the state in which they leave desk and
host. A step that fails does not keep the next from being taken. -/
def run : List Step → Desk × Session → List (Report Unit) × (Desk × Session)
  | [], state => ([], state)
  | s :: rest, state =>
    let (report, state) := s.op.report state
    let (reports, state) := run rest state
    (report :: reports, state)

end Desk

end TelephonyAlerts
