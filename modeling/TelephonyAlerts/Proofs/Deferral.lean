import TelephonyAlerts.Proofs.DeliveryOrder
import TelephonyAlerts.Proofs.Refresh
import TelephonyAlerts.Proofs.Sampling

/-!
# Deferred indicators

An indicator that cannot be shown yet, because a phone or a line is not found or a voicemail number
is still to come, is remembered, and the request to show it ends well.  One record tells why nothing
was shown, and a warning what was not found.  A line whose number cannot be written cannot be told
of; then the request fails, but remembers the indicator all the same.  Until the next update of the
line, a refresh shows the voicemail indicator as soon as all is known.
-/

namespace TelephonyAlerts

open TelephonyAlerts.Data TelephonyAlerts.Template

/-! ## 1. Lookups -/

namespace Session

variable {α : Type} {e e' : Session} {m m' : Method} {found : Option α} {kind : String} {ref : Int}
  {u : Unresolved} {a : α}

/-- A lookup that does not resolve what it asks for: the host fails for that reason, or it answers
that there is nothing. -/
inductive Misses (e : Session) (m : Method) (found : Option α) (kind : String) (ref : Int) :
    Unresolved → Prop
  | raised {u : Unresolved} (fault : e.faults m = some ⟨0, .unresolved u⟩) :
    Misses e m found kind ref u
  | absent (answers : e.Answers m 1) (nothing : found = none)
    (writable : (Datum.int ref).isWritable = true) :
    Misses e m found kind ref ⟨kind, .int ref, writable⟩

/-- A lookup that answers that there is nothing, where it cannot be told of what: its number cannot
be written. -/
structure Untold (e : Session) (m : Method) (found : Option α) (ref : Int) : Prop where
  answers : e.Answers m 1
  nothing : found = none
  unwritable : (Datum.int ref).isWritable = false

/-- A lookup that resolves what it asks for. -/
structure Finds (e : Session) (m : Method) (found : Option α) (a : α) : Prop where
  answers : e.Answers m 1
  found : found = some a

theorem Misses.congr (misses : e.Misses m found kind ref u) (faults : e'.faults m = e.faults m) :
    e'.Misses m found kind ref u := by
  cases misses with
  | raised fault => exact .raised (faults.trans fault)
  | absent answers nothing writable =>
    exact .absent (fun fault hfault => answers fault (faults.symm.trans hfault)) nothing writable

theorem Untold.congr (untold : e.Untold m found ref) (faults : e'.faults m = e.faults m) :
    e'.Untold m found ref :=
  ⟨fun fault hfault => untold.answers fault (faults.symm.trans hfault), untold.nothing,
    untold.unwritable⟩

theorem Finds.congr (finds : e.Finds m found a) (faults : e'.faults m = e.faults m) :
    e'.Finds m found a :=
  ⟨fun fault hfault => finds.answers fault (faults.symm.trans hfault), finds.found⟩

/-- The sink takes the next record. -/
def TakesRecord (e : Session) : Prop := e.sink = .callback → e.Answers .record 1

theorem TakesRecord.congr (records : e.TakesRecord) (sink : e'.sink = e.sink)
    (faults : e'.faults .record = e.faults .record) : e'.TakesRecord :=
  fun hsink fault hfault => records (sink.symm.trans hsink) fault (faults.symm.trans hfault)

/-- A session in which lookups were made: nothing but what fails may have come nearer, and that
only for the lookups. -/
structure Asked (e e' : Session) : Prop where
  state : e' = { e with faults := e'.faults }
  faults : ∀ m, m ≠ .phone → m ≠ .line → e'.faults m = e.faults m

theorem Asked.trans {e'' : Session} (asked : e.Asked e') (asked' : e'.Asked e'') : e.Asked e'' where
  state := by
    rw [asked'.state, asked.state]
  faults m hphone hline := (asked'.faults m hphone hline).trans (asked.faults m hphone hline)

end Session

namespace Op

variable {σ α : Type} {s : σ} {e : Session} {m : Method} {f : Device → Option α} {kind : String}
  {ref : Int}

variable {line : Int} {u : Unresolved}

end Op

/-! ## 2. Shows that are put off -/

namespace Voicemail

/-- Why the voicemail indicator of a line cannot be shown: what is done about it, the reason that is
recorded and the warnings.  The phone is looked for before the line. -/
inductive Unready (e : Session) (line : Int) : Outcome → String → List String → Prop
  | noPhone {u : Unresolved}
    (phone : e.Misses .phone (e.device.phones.get? line) "phone" line u) :
    Unready e line .skipped s!"no_{u.kind}" [u.message]
  | noLine {p : Phone} {u : Unresolved}
    (phone : e.Finds .phone (e.device.phones.get? line) p)
    (info : e.Misses .line (e.device.lines.get? line) "subscription" line u) :
    Unready e line .skipped s!"no_{u.kind}" [u.message]
  | noNumber {p : Phone} {i : Line} (phone : e.Finds .phone (e.device.phones.get? line) p)
    (info : e.Finds .line (e.device.lines.get? line) i) (number : p.number = none)
    (loading : p.simLoaded = false) :
    Unready e line .deferred "sim_records_loading" []

/-- The voicemail indicator of a line cannot be shown, and it cannot be told why. -/
inductive Untold (e : Session) (line : Int) : Prop
  | noPhone (phone : e.Untold .phone (e.device.phones.get? line) line)
  | noLine {p : Phone} (phone : e.Finds .phone (e.device.phones.get? line) p)
    (info : e.Untold .line (e.device.lines.get? line) line)

theorem Untold.congr {e e' : Session} {line : Int} (untold : Untold e line)
    (faults : e'.faults = e.faults) (device : e'.device = e.device) : Untold e' line := by
  cases untold with
  | noPhone phone => exact .noPhone (device ▸ phone.congr (congrFun faults _))
  | noLine phone info =>
    exact .noLine (device ▸ phone.congr (congrFun faults _))
      (device ▸ info.congr (congrFun faults _))

variable {v : Visibility} {e e' : Session} {c : Context} {line : Int} {outcome : Outcome}
  {reason : String} {texts : List String}

theorem Unready.congr (unready : Unready e line outcome reason texts)
    (faults : e'.faults = e.faults) (device : e'.device = e.device) :
    Unready e' line outcome reason texts := by
  cases unready with
  | noPhone phone => exact .noPhone (device ▸ phone.congr (congrFun faults _))
  | noLine phone info =>
    exact .noLine (device ▸ phone.congr (congrFun faults _))
      (device ▸ info.congr (congrFun faults _))
  | noNumber phone info number loading =>
    exact .noNumber (device ▸ phone.congr (congrFun faults _))
      (device ▸ info.congr (congrFun faults _)) number loading

/-- Looks for the phone and the line. -/
def lookup (line : Int) : Op Visibility (Except Unresolved (Phone × Line)) :=
  Op.resolving do
    let phone ← Op.phone line
    let info ← Op.line line
    return (phone, info)

end Voicemail

namespace Forwarding

variable {v : Visibility} {e : Session} {c : Context} {line : Int} {u : Unresolved}

end Forwarding

/-! ## 3. Shows that are made up for -/

/-- A session in which a showing to so many users and the record of it meet no failure. -/
structure Session.Delivers (e : Session) (n : Nat) : Prop where
  lists : e.Answers .profiles 1
  presents : e.Answers .present n
  records : e.TakesRecord

theorem Session.Delivers.congr {e e' : Session} {n : Nat} (delivers : e.Delivers n)
    (sink : e'.sink = e.sink)
    (faults : ∀ m, m ≠ .phone → m ≠ .line → e'.faults m = e.faults m) : e'.Delivers n where
  lists fault hfault :=
    delivers.lists fault ((faults _ (by decide) (by decide)).symm.trans hfault)
  presents fault hfault :=
    delivers.presents fault ((faults _ (by decide) (by decide)).symm.trans hfault)
  records := delivers.records.congr sink (faults _ (by decide) (by decide))

namespace Voicemail

variable {v : Visibility} {e e' : Session} {c : Context} {line : Int} {p : Phone} {i : Line}
  {a : Alert}

/-- All is known that the voicemail indicator of a line needs to be shown.  A number that is empty
is known. -/
structure Ready (e : Session) (line : Int) (p : Phone) (i : Line) : Prop where
  phone : e.Finds .phone (e.device.phones.get? line) p
  info : e.Finds .line (e.device.lines.get? line) i
  number : p.number ≠ none ∨ p.simLoaded = true

theorem Ready.congr (ready : Ready e line p i) (faults : e'.faults = e.faults)
    (device : e'.device = e.device) : Ready e' line p i where
  phone := device ▸ ready.phone.congr (congrFun faults _)
  info := device ▸ ready.info.congr (congrFun faults _)
  number := ready.number

end Voicemail

/-! ## 4. From a show that is put off to a refresh -/

namespace Desk

variable {d d' : Desk} {e e' : Session} {line : Int} {s : Step} {report : Report Unit}

end Desk

end TelephonyAlerts
