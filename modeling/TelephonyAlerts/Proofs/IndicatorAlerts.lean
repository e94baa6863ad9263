import TelephonyAlerts.Proofs.Run

/-!
# What the indicators say

The alert of an indicator speaks of the line that it is addressed by: its action is about that
line, and what it tells is what the phone and the directory answer for the line when it is shown.
Voicemail is dialled where there is a number to dial, and is not shown before it is known whether
there is one.
-/

namespace TelephonyAlerts

open TelephonyAlerts.Template

/-! ## 1. The alerts in parts -/

namespace Voicemail

/-- The number to dial; empty where there is none. -/
def dialled (phone : Phone) : String := phone.number.getD ""

def title (w : Wording) (phone : Phone) : Except RenderError String :=
  if phone.countsMail then w.text .voicemailTitleCount [("count", .number phone.count)]
  else w.text .voicemailTitle

def body (w : Wording) (d : Device) (phone : Phone) (info : Line) : Except RenderError String :=
  if (dialled phone).isEmpty then w.text .voicemailNoNumber
  else if 1 < d.activeLines then .ok info.name
  else w.text .voicemailDial [("number", .text (dialled phone).toList)]

def action (line : Int) (phone : Phone) : Action :=
  if (dialled phone).isEmpty then { kind := .voicemailSettings, line := some line }
  else { kind := .dialVoicemail, target := some (dialled phone), line := some line }

def assembled (d : Device) (line : Int) (phone : Phone) (info : Line) (sound : Bool)
    (title body : String) : Alert where
  address := ⟨.voicemail, some line⟩
  title := title
  body := body
  contentAction := some (action line phone)
  sound := sound
  vibrate := phone.vibrates
  ongoing := true
  color := info.tint
  shownAt := some d.now

theorem alert_eq (w : Wording) (d : Device) (line : Int) (phone : Phone) (info : Line)
    (sound : Bool) : alert w d line phone info sound = (do
      let title ← title w phone
      let body ← body w d phone info
      .ok (assembled d line phone info sound title body)) := by
  unfold alert title body assembled action dialled
  -- the three questions that the alert asks; once they are answered both sides are one chain
  by_cases counts : phone.countsMail = true <;>
    by_cases empty : (phone.number.getD "").isEmpty = true <;>
    by_cases many : 1 < d.activeLines <;>
    simp only [counts, empty, many] <;> rfl

variable {phone : Phone} {number : String}

theorem dialled_isEmpty : (dialled phone).isEmpty = true ↔
    phone.number = none ∨ phone.number = some "" := by
  unfold dialled
  cases phone.number with
  | none => simp
  | some number => simp

theorem dialled_of_number (h : phone.number = some number) : dialled phone = number := by
  unfold dialled
  rw [h, Option.getD_some]

theorem action_of_number (line : Int) (h : phone.number = some number) (hne : number ≠ "") :
    action line phone = { kind := .dialVoicemail, target := some number, line := some line } := by
  unfold action
  rw [dialled_of_number h, if_neg]
  rwa [String.isEmpty_iff]

theorem body_of_number (w : Wording) {d : Device} (info : Line) (h : phone.number = some number)
    (hne : number ≠ "") (many : 1 < d.activeLines) : body w d phone info = .ok info.name := by
  unfold body
  rw [dialled_of_number h, if_neg, if_pos many]
  rwa [String.isEmpty_iff]

end Voicemail

namespace Forwarding

def title (w : Wording) (d : Device) (info : Line) : Except RenderError String :=
  if 1 < d.activeLines then .ok info.name else w.text .callForwardLabel

def assembled (info : Line) (title body : String) : Alert where
  address := ⟨.callForward, some info.id⟩
  title := title
  body := body
  contentAction := some { kind := .callForwardSettings, line := some info.id }
  ongoing := true
  color := info.tint

theorem alert_eq (w : Wording) (d : Device) (info : Line) : alert w d info = (do
    let title ← title w d info
    let body ← w.text .callForwardEnabled
    .ok (assembled info title body)) := by
  unfold alert title assembled
  by_cases many : 1 < d.activeLines <;> simp only [many] <;> rfl

end Forwarding

/-! ## 2. What an alert says of a line -/

/-- The voicemail alert for a line, as its phone and the directory describe the line. -/
structure Voicemail.SpeaksOf (d : Device) (line : Int) (phone : Phone) (info : Line) (a : Alert) :
    Prop where
  address : a.address = ⟨.voicemail, some line⟩
  dials : ∀ number, phone.number = some number → number ≠ "" →
    a.contentAction = some { kind := .dialVoicemail, target := some number, line := some line }
  opens : phone.number = none ∨ phone.number = some "" →
    a.contentAction = some { kind := .voicemailSettings, line := some line }
  color : a.color = info.tint
  body : ∀ number, phone.number = some number → number ≠ "" → 1 < d.activeLines →
    a.body = info.name

/-- The forwarding alert for a line, as the directory describes the line.  The action is the
owner's alone, so a copy of the alert may be without it. -/
structure Forwarding.SpeaksOf (d : Device) (line : Int) (info : Line) (a : Alert) : Prop where
  address : a.address = ⟨.callForward, some line⟩
  action : ∀ action, a.contentAction = some action →
    action = { kind := .callForwardSettings, line := some line }
  color : a.color = info.tint
  title : 1 < d.activeLines → a.title = info.name

/-- The voicemail alert says what the device knows of a line, and it knows enough of it. -/
def Voicemail.Coherent (d : Device) (line : Int) (a : Alert) : Prop :=
  ∃ phone info, d.phones.get? line = some phone ∧ d.lines.get? line = some info ∧
    (phone.number = none → phone.simLoaded = true) ∧ SpeaksOf d line phone info a

/-- The forwarding alert says what the device knows of a line. -/
def Forwarding.Coherent (d : Device) (line : Int) (a : Alert) : Prop :=
  ∃ info, d.lines.get? line = some info ∧ SpeaksOf d line info a

variable {w : Wording} {d : Device} {line : Int} {phone : Phone} {info : Line} {sound : Bool}
  {a : Alert}

theorem Voicemail.speaksOf_alert (made : alert w d line phone info sound = .ok a) :
    SpeaksOf d line phone info a := by
  rw [alert_eq] at made
  obtain ⟨title, -, made⟩ := bind_eq_ok made
  obtain ⟨text, hbody, made⟩ := bind_eq_ok made
  obtain rfl := Except.ok.inj made
  refine ⟨rfl, fun number hnumber hne => ?_, fun hnone => ?_, rfl,
    fun number hnumber hne many => ?_⟩
  · exact congrArg some (action_of_number line hnumber hne)
  · have hempty := dialled_isEmpty.2 hnone
    show some (action line phone) = _
    rw [action, if_pos hempty]
  · rw [body_of_number w info hnumber hne many] at hbody
    exact (Except.ok.inj hbody).symm

theorem Forwarding.speaksOf_alert (made : alert w d info = .ok a) (hline : info.id = line) :
    SpeaksOf d line info { a with address := ⟨.callForward, some line⟩ } := by
  rw [alert_eq] at made
  obtain ⟨title, htitle, made⟩ := bind_eq_ok made
  obtain ⟨body, -, made⟩ := bind_eq_ok made
  obtain rfl := Except.ok.inj made
  refine ⟨rfl, fun action haction => ?_, rfl, fun many => ?_⟩
  · rw [← Option.some.inj haction, hline]
  · rw [Forwarding.title, if_pos many] at htitle
    exact (Except.ok.inj htitle).symm

theorem Forwarding.SpeaksOf.personal (h : SpeaksOf d line info a) (o : Bool) (p : Profile) :
    SpeaksOf d line info (Delivery.personal a o p) := by
  unfold Delivery.personal
  split
  · exact ⟨h.address, nofun, h.color, h.title⟩
  · exact h

/-! ## 3. Requests -/

namespace Delivery

variable {address b : Address} {o : Bool} {made : Except RenderError Alert}
  {r : Except Failure Unit} {calls : List ShellCall} {user : Int}

-- What is shown is the alert that was made, at the address that it is shown at.
theorem Shown.alert (shown : Shown d address o made r calls) (h : .present b a user ∈ calls) :
    b = address ∧ ∃ original p, made = .ok original ∧
      a = personal { original with address } o p := by
  have part : ∃ original, made = .ok original ∧ calls <+: toldOn d address original o := by
    cases made with
    | error cause =>
      rw [shown.2] at h
      cases h
    | ok original =>
      rcases shown with rfl | ⟨-, part⟩
      · exact ⟨original, rfl, List.prefix_refl _⟩
      · exact ⟨original, rfl, part⟩
  obtain ⟨original, hmade, part⟩ := part
  obtain ⟨p, -, -, hcall⟩ := mem_told (part.subset h)
  cases hcall
  exact ⟨rfl, original, p, hmade, rfl⟩

end Delivery

namespace Desk

variable {desk desk' : Desk} {e : Session} {request : Request} {address : Address}
  {r : Except Failure Unit} {calls : List ShellCall} {user : Int}

/-- An alert at an address of an indicator is the line's. -/
def Coherent (d : Device) (address : Address) (a : Alert) : Prop :=
  (address.topic = .voicemail →
    ∃ line, address = ⟨.voicemail, some line⟩ ∧ Voicemail.Coherent d line a) ∧
  (address.topic = .callForward →
    ∃ line, address = ⟨.callForward, some line⟩ ∧ Forwarding.Coherent d line a)

theorem coherent_of_announced_voicemail
    (announced : Voicemail.Announced d w line sound r calls)
    (h : .present address a user ∈ calls) : Coherent d address a := by
  rcases announced with rfl | ⟨phone, info, hphone, hinfo, ready, shown⟩
  · cases h
  · obtain ⟨rfl, original, p, made, rfl⟩ := shown.alert h
    have speaks := Voicemail.speaksOf_alert made
    refine ⟨fun _ => ⟨line, rfl, phone, info, hphone, hinfo, fun hnone => ?_, ?_⟩, nofun⟩
    · rw [hnone] at ready
      simpa using ready
    · exact ⟨rfl, speaks.dials, speaks.opens, speaks.color, speaks.body⟩

theorem coherent_of_announced_forwarding
    (answers : ∀ info, d.lines.get? line = some info → info.id = line)
    (announced : Forwarding.Announced d w line r calls)
    (h : .present address a user ∈ calls) : Coherent d address a := by
  rcases announced with rfl | ⟨info, hinfo, shown⟩
  · cases h
  · obtain ⟨rfl, original, p, made, rfl⟩ := shown.alert h
    have speaks := Forwarding.speaksOf_alert made (answers info hinfo)
    exact ⟨nofun, fun _ => ⟨line, rfl, info, hinfo, speaks.personal true p⟩⟩

-- At any other address there is nothing to say.
theorem coherent_of_topic (hv : address.topic ≠ .voicemail) (hf : address.topic ≠ .callForward) :
    Coherent d address a :=
  ⟨fun h => absurd h hv, fun h => absurd h hf⟩

theorem coherent_of_does
    (answers : ∀ key info, e.device.lines.get? key = some info → info.id = key)
    (does : Does e desk request r calls desk') (h : .present address a user ∈ calls) :
    Coherent e.device address a := by
  induction does with
  | untold _ => cases h
  | @told m _ _ _ _ _ _ shown =>
    obtain rfl := address_of_shown shown h
    cases m <;> exact coherent_of_topic nofun nofun
  | cleared _ cleared => exact absurd h (not_present_of_cleared cleared)
  | refused _ => cases h
  | incapable _ => cases h
  | voicemailShown _ announced => exact coherent_of_announced_voicemail announced h
  | voicemailHidden _ cancelled => exact absurd h (not_present_of_cancelled cancelled)
  | unrefreshed _ => cases h
  | refreshed _ _ ih => exact ih h
  | forwardingShown announced => exact coherent_of_announced_forwarding (answers _) announced h
  | forwardingHidden cancelled => exact absurd h (not_present_of_cancelled cancelled)
  | followed followed =>
    obtain rfl := address_of_followed followed h
    exact coherent_of_topic nofun nofun
  | roamingShown shown =>
    obtain rfl := address_of_shown shown h
    exact coherent_of_topic nofun nofun
  | roamingHidden cancelled => exact absurd h (not_present_of_cancelled cancelled)
  | transient part => exact absurd (part.subset h) (by simp)

/-! ## 4. Runs -/

theorem coherent_of_takes {e' : Session} {s : Step} {report : Report Unit}
    (answers : ∀ key info, e.device.lines.get? key = some info → info.id = key)
    (takes : Takes desk e s report desk' e') (h : .present address a user ∈ report.journal.calls) :
    Coherent e.device address a := by
  cases takes with
  | request _ does => exact coherent_of_does (e := e.blank) answers does h
  | settings c => cases h
  | host c => cases h

/-- Whatever happened before a step, and whatever fails in it: where the directory answers with the
line that it was asked for, every indicator that the step shows is the alert of the line that it is
addressed by, as the device describes the line at that time. -/
theorem indicators_coherent (d : Desk) (e : Session) (past : List Step) (s : Step) :
    let before := (run past (d, e)).2
    let device := before.2.device
    (∀ key info, device.lines.get? key = some info → info.id = key) →
    ∀ address a user, .present address a user ∈ (s.op.report before).1.journal.calls →
      (address.topic = .voicemail →
        ∃ line, address = ⟨.voicemail, some line⟩ ∧ Voicemail.Coherent device line a) ∧
      (address.topic = .callForward →
        ∃ line, address = ⟨.callForward, some line⟩ ∧ Forwarding.Coherent device line a) := by
  intro before device answers address a user h
  exact coherent_of_takes answers (takes before.1 before.2 s) h

/-- A device with two lines that the directory tells apart. -/
def twoLines : Device :=
  { twoUsers with
    lines := [(5, { id := 5, name := "Home", tint := some 255 }), (7, { id := 7, name := "Work" })]
    phones := [(7, { number := some "" })] }

/-- An indicator that waits until the phone of its line is ready. -/
def latePhone : List Step :=
  [.host (.device (.phone 5 { simLoaded := false })), .request (.updateVoicemail 5 true),
    .host (.device (.phone 5 { number := some "777" }))]

theorem indicators_coherent_late :
    let before := (run latePhone (fresh, { device := twoLines })).2
    let calls (r : Request) := ((Step.request r).op.report before).1.journal.calls
    let voicemail : Alert :=
      { address := ⟨.voicemail, some 5⟩, title := "New voicemail", body := "Home"
        contentAction := some { kind := .dialVoicemail, target := some "777", line := some 5 }
        sound := false, ongoing := true, color := some 255, shownAt := some twoLines.now }
    let forwarding : Alert :=
      { address := ⟨.callForward, some 7⟩, title := "Work", body := "Always forward"
        ongoing := true }
    .present ⟨.voicemail, some 5⟩ voicemail 10 ∈ calls (.refreshVoicemail 5) ∧
      Voicemail.Coherent before.2.device 5 voicemail ∧
      .present ⟨.callForward, some 7⟩ forwarding 10 ∈ calls (.updateForwarding 7 true) ∧
      Forwarding.Coherent before.2.device 7 forwarding := by
  intro before calls voicemail forwarding
  have answers (key info) (h : before.2.device.lines.get? key = some info) : info.id = key := by
    have h : twoLines.lines.get? key = some info := h
    simp only [twoLines, Data.Assoc.get?] at h
    split at h
    · rw [← Option.some.inj h]
      assumption
    · split at h
      · rw [← Option.some.inj h]
        assumption
      · cases h
  have refreshed : .present ⟨.voicemail, some 5⟩ voicemail 10 ∈ calls (.refreshVoicemail 5) := by
    decide +kernel
  have forwarded :
      .present ⟨.callForward, some 7⟩ forwarding 10 ∈ calls (.updateForwarding 7 true) := by
    decide +kernel
  obtain ⟨_, hv, hvoicemail⟩ := (indicators_coherent _ _ _ _ answers _ _ _ refreshed).1 rfl
  obtain ⟨_, hf, hforwarding⟩ := (indicators_coherent _ _ _ _ answers _ _ _ forwarded).2 rfl
  cases hv
  cases hf
  exact ⟨refreshed, hvoicemail, forwarded, hforwarding⟩

end Desk

end TelephonyAlerts
