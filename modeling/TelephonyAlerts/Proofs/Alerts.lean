import TelephonyAlerts.Desk.Request
import TelephonyAlerts.Proofs.Acceptance

/-!
# Why an alert cannot be made

An alert is made of texts, and what keeps it from being made is what keeps one of the texts from
being made.  Where these fail for reasons of a kind only, so does every alert.
-/

namespace TelephonyAlerts

open TelephonyAlerts.Template

/-- The arguments that a phrase is rendered with when an alert is made: a count is a number and all
else is text. -/
def Phrase.Supplied (p : Phrase) (args : Arguments) : Prop :=
  args.map (·.1) = p.arguments ∧
    ∀ x ∈ args, if x.1 = "count" then ∃ n, x.2 = .number n else ∃ s, x.2 = .text s

variable {S : RenderError → Prop}

/-! ## 1. Renderings that fail for some reasons only -/

/-- A rendering succeeds or fails for a reason of a kind. -/
def FailsOnly {α : Type} (S : RenderError → Prop) (x : Except RenderError α) : Prop :=
  ∀ cause, x = .error cause → S cause

namespace FailsOnly

variable {α β : Type} {x : Except RenderError α} {k : α → Except RenderError β}

theorem pure (a : α) : FailsOnly S (Pure.pure a) := nofun

theorem bind (hx : FailsOnly S x) (hk : ∀ a, FailsOnly S (k a)) : FailsOnly S (x >>= k) := by
  cases x with
  | ok a => exact hk a
  | error cause =>
    intro cause' h
    exact hx cause' (congrArg Except.error (Except.error.inj h))

theorem mapM (hk : ∀ a, FailsOnly S (k a)) : ∀ l : List α, FailsOnly S (l.mapM k)
  | [] => pure []
  | a :: rest => by
    rw [List.mapM_cons]
    exact bind (hk a) fun _ => bind (mapM hk rest) fun _ => pure _

end FailsOnly

/-- The texts that alerts are made of fail for reasons of a kind only. -/
def Wording.FailsOnly (w : Wording) (S : RenderError → Prop) : Prop :=
  ∀ p args, p.Supplied args → TelephonyAlerts.FailsOnly S (w.text p args)

/-! ## 2. Alerts -/

section Alerts

variable {w : Wording} (texts : w.FailsOnly S)
include texts

theorem text_plain {p : Phrase} (hp : p.arguments = []) : FailsOnly S (w.text p) :=
  texts p [] ⟨hp.symm, fun _ hx => absurd hx List.not_mem_nil⟩

theorem text_count {p : Phrase} (hp : p.arguments = ["count"]) (n : Int) :
    FailsOnly S (w.text p [("count", .number n)]) := by
  refine texts p _ ⟨hp.symm, fun x hx => ?_⟩
  obtain rfl := List.mem_singleton.1 hx
  exact ⟨n, rfl⟩

theorem text_named {p : Phrase} {name : String} (hp : p.arguments = [name]) (hname : name ≠ "count")
    (s : List Char) : FailsOnly S (w.text p [(name, .text s)]) := by
  refine texts p _ ⟨hp.symm, fun x hx => ?_⟩
  obtain rfl := List.mem_singleton.1 hx
  rw [if_neg hname]
  exact ⟨s, rfl⟩

theorem forwarding_alert_fails (d : Device) (info : Line) :
    FailsOnly S (Forwarding.alert w d info) := by
  unfold Forwarding.alert
  split
  · exact .bind (.pure _) fun _ => .bind (text_plain texts (by decide +kernel)) fun _ => .pure _
  · exact .bind (text_plain texts (by decide +kernel)) fun _ =>
      .bind (text_plain texts (by decide +kernel)) fun _ => .pure _

theorem operator_alert_fails (operator : String) : FailsOnly S (Operator.alert w operator) := by
  have hoperator : Phrase.networkSelectionText.arguments = ["operator"] := by decide +kernel
  exact .bind (text_plain texts (by decide +kernel)) fun _ =>
    .bind (text_named texts hoperator (by decide) _) fun _ => .pure _

theorem roaming_alert_fails : FailsOnly S (Roaming.alert w) :=
  .bind (text_plain texts (by decide +kernel)) fun _ =>
    .bind (text_plain texts (by decide +kernel)) fun _ => .pure _

theorem voicemail_alert_fails (d : Device) (line : Int) (phone : Phone) (info : Line)
    (sound : Bool) : FailsOnly S (Voicemail.alert w d line phone info sound) := by
  have hcount : Phrase.voicemailTitleCount.arguments = ["count"] := by decide +kernel
  have hnumber : Phrase.voicemailDial.arguments = ["number"] := by decide +kernel
  unfold Voicemail.alert
  dsimp only
  -- the title depends on whether mail is counted, and the body on what is known of the number
  split
  · refine .bind (text_count texts hcount _) fun _ => ?_
    split
    · exact .bind (text_plain texts (by decide +kernel)) fun _ => .pure _
    · split
      · exact .pure _
      · exact .bind (text_named texts hnumber (by decide) _) fun _ => .pure _
  · refine .bind (text_plain texts (by decide +kernel)) fun _ => ?_
    split
    · exact .bind (text_plain texts (by decide +kernel)) fun _ => .pure _
    · split
      · exact .pure _
      · exact .bind (text_named texts hnumber (by decide) _) fun _ => .pure _

theorem sentence_fails (m : Medium) (event : BlockedEvent) :
    FailsOnly S (event.sentence w m) := by
  have hplain : ∀ p ∈ [m.phrases.oneHidden, m.phrases.oneUnknown], p.arguments = [] := by
    cases m <;> decide +kernel
  have hone : m.phrases.one.arguments = ["number"] := by cases m <;> decide +kernel
  unfold BlockedEvent.sentence
  split
  · exact text_plain texts (hplain _ (by simp))
  · exact text_plain texts (hplain _ (by simp))
  · exact text_named texts hone (by decide) _
  · exact text_named texts hone (by decide) _

theorem line_fails (now : Calendar.Moment) (event : BlockedEvent) :
    FailsOnly S (event.line w now) := by
  have harguments : Phrase.blacklistLine.arguments = ["identifier", "time"] := by decide +kernel
  have htext (identifier time : List Char) : FailsOnly S (w.text .blacklistLine
      [("identifier", .text identifier), ("time", .text time)]) := by
    refine texts _ _ ⟨harguments.symm, fun x hx => ?_⟩
    simp only [List.mem_cons, List.not_mem_nil, or_false] at hx
    rcases hx with rfl | rfl
    · exact ⟨_, rfl⟩
    · exact ⟨_, rfl⟩
  unfold BlockedEvent.line
  split
  · exact .bind (text_plain texts (by decide +kernel)) fun _ => htext _ _
  · exact htext _ _

theorem story_fails (now : Calendar.Moment) (m : Medium) (newest : BlockedEvent)
    (older : List BlockedEvent) : FailsOnly S (m.story w now newest older) := by
  have hseveral : m.phrases.several.arguments = ["count"] := by cases m <;> decide +kernel
  cases older with
  | nil => exact .bind (sentence_fails texts m newest) fun _ => .pure _
  | cons next rest =>
    exact .bind (text_count texts hseveral _) fun _ =>
      .bind (.mapM (line_fails texts now) _) fun _ => .pure _

theorem summary_fails (now : Calendar.Moment) (m : Medium) (newest : BlockedEvent)
    (older : List BlockedEvent) : FailsOnly S (m.summary w now newest older) := by
  refine .bind (story_fails texts now m newest older) fun story => ?_
  dsimp only
  split
  · exact .bind (text_plain texts (by decide +kernel)) fun _ => .bind (.pure _) fun _ =>
      .bind (text_plain texts (by decide +kernel)) fun _ => .pure _
  · exact .bind (.pure _) fun _ => .bind (text_plain texts (by decide +kernel)) fun _ => .pure _

end Alerts

end TelephonyAlerts
