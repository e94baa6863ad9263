import TelephonyAlerts.Proofs.Run

/-!
# Who gets an alert

Whatever fails on the way, an alert reaches only users that its topic is for, and where the owner
alone may follow it up, other users get it without a tap.  A step that succeeds reaches each of
these users once.  Alerts are always taken away from all users.
-/

namespace TelephonyAlerts

open TelephonyAlerts.Template

/-! ## 1. Audiences -/

/-- The users that a topic is for. -/
structure Profile.Hears (p : Profile) (t : Topic) : Prop where
  unmanaged : p.isManaged = false
  unrestricted : t = .voicemail → .outgoingCalls ∉ p.restrictions
  owner : t = .blockedCall ∨ t = .blockedMessage → p.isOwner = true

theorem admits_iff {p : Profile} {t : Topic} : t.audience.admits p = true ↔ p.Hears t := by
  have hears : p.Hears t ↔
      p.isManaged = false ∧ (t = .voicemail → .outgoingCalls ∉ p.restrictions) ∧
      (t = .blockedCall ∨ t = .blockedMessage → p.isOwner = true) :=
    ⟨fun h => ⟨h.unmanaged, h.unrestricted, h.owner⟩, fun h => ⟨h.1, h.2.1, h.2.2⟩⟩
  rw [hears]
  cases t <;> simp [Topic.audience, Audience.admits, and_comm]

instance (p : Profile) (t : Topic) : Decidable (p.Hears t) := decidable_of_iff _ admits_iff

/-- The topics whose alerts the owner alone may follow up. -/
def ownerTaps : List Topic := [.callForward, .operatorUnavailable, .roamingDisconnected]

theorem personal_contentAction {alert : Alert} {p : Profile} (h : p.isOwner = false) :
    (Delivery.personal alert true p).contentAction = none := by
  unfold Delivery.personal
  rw [h]
  rfl

/-! ## 2. What a request sends -/

/-- A call that shows nothing, and that takes alerts away from all users only. -/
def ShellCall.Withdraws : ShellCall → Prop
  | .present _ _ _ => False
  | .cancel _ user => user = allUsers
  | .showTransient _ => True
  | .cancelTransient => True

namespace Delivery

/-- The calls of a request tell the audience of one topic, all of it unless the request fails, or
they show nothing. -/
inductive Sends (d : Device) (r : Except Failure Unit) : List ShellCall → Prop
  | told {a : Address} {alert : Alert} {o : Bool} {calls : List ShellCall}
      (owner : a.topic ∈ ownerTaps → o = true) (part : calls <+: toldOn d a alert o)
      (whole : r = .ok () → calls = toldOn d a alert o) : Sends d r calls
  | withdrawn {calls : List ShellCall} (h : ∀ c ∈ calls, c.Withdraws) : Sends d r calls

variable {d : Device} {e : Session} {a : Address} {o : Bool} {r : Except Failure Unit}
  {calls : List ShellCall} {made : Except RenderError Alert}

theorem sends_nothing : Sends d r [] := .withdrawn (List.forall_mem_nil _)

theorem Shown.sends (owner : a.topic ∈ ownerTaps → o = true) (shown : Shown d a o made r calls) :
    Sends d r calls := by
  cases made with
  | error cause =>
    have hnone : calls = [] := shown.2
    rw [hnone]
    exact sends_nothing
  | ok alert =>
    rcases shown with hall | ⟨⟨f, hf⟩, part⟩
    · exact .told owner (hall ▸ List.prefix_refl _) fun _ => hall
    · exact .told owner part fun hok => absurd (hf.symm.trans hok) nofun

theorem Cancelled.sends (cancelled : Cancelled e a r calls) : Sends d r calls := by
  refine .withdrawn fun c hc => ?_
  rcases cancelled with hcalls | ⟨hcalls, -⟩
  · rw [hcalls, List.mem_singleton] at hc
    rw [hc]
    rfl
  · rw [hcalls] at hc
    exact absurd hc List.not_mem_nil

end Delivery

theorem Blocked.Cleared.withdraws {e : Session} {ms : List Medium} {h h' : History}
    {r : Except Failure Unit} {calls : List ShellCall} (cleared : Cleared e ms h r calls h') :
    ∀ c ∈ calls, c.Withdraws := by
  induction cleared with
  | done _ => exact List.forall_mem_nil _
  | next _ ih => exact List.forall_mem_cons.2 ⟨rfl, ih⟩
  | unrecorded _ _ _ _ => exact List.forall_mem_singleton.2 rfl
  | uncancelled _ => exact List.forall_mem_nil _

theorem Operator.Followed.sends {d : Device} {w : Wording} {service : Service} {shown shown' : Bool}
    {r : Except Failure Unit} {calls : List ShellCall}
    (followed : Followed d w service shown r calls shown') : Delivery.Sends d r calls := by
  cases followed with
  | idle _ => exact Delivery.sends_nothing
  | raised _ _ => exact .told (fun _ => rfl) (List.prefix_refl _) fun _ => rfl
  | brokenOff _ _ part _ => exact .told (fun _ => rfl) part nofun
  | lowered _ => exact .withdrawn (List.forall_mem_singleton.2 rfl)

namespace Desk

variable {d d' : Desk} {e : Session} {request : Request} {r : Except Failure Unit}
  {calls : List ShellCall}

theorem Does.sends (does : Does e d request r calls d') : Delivery.Sends e.device r calls := by
  -- only the indicator of forwarded calls and the alerts about the network are the owner's to tap
  induction does with
  | untold _ => exact Delivery.sends_nothing
  | @told m _ _ _ _ _ _ shown =>
    have hm : m.topic ∉ ownerTaps := by cases m <;> decide
    exact shown.sends fun h => absurd h hm
  | cleared _ cleared => exact .withdrawn cleared.withdraws
  | refused _ => exact Delivery.sends_nothing
  | incapable _ => exact Delivery.sends_nothing
  | voicemailShown _ announced =>
    rcases announced with hnone | ⟨_, _, -, -, -, shown⟩
    · rw [hnone]
      exact Delivery.sends_nothing
    · have hvoicemail : Topic.voicemail ∉ ownerTaps := by decide
      exact shown.sends fun h => absurd h hvoicemail
  | voicemailHidden _ cancelled => exact cancelled.sends
  | unrefreshed _ => exact Delivery.sends_nothing
  | refreshed _ _ ih => exact ih
  | forwardingShown announced =>
    rcases announced with hnone | ⟨_, -, shown⟩
    · rw [hnone]
      exact Delivery.sends_nothing
    · exact shown.sends fun _ => rfl
  | forwardingHidden cancelled => exact cancelled.sends
  | followed followed => exact followed.sends
  | roamingShown shown => exact shown.sends fun _ => rfl
  | roamingHidden cancelled => exact cancelled.sends
  | transient part =>
    refine .withdrawn fun c hc => ?_
    rcases List.mem_cons.1 (part.subset hc) with rfl | hc
    · trivial
    · rw [List.mem_singleton.1 hc]
      trivial

theorem Takes.sends {s : Step} {report : Report Unit} {e' : Session}
    (takes : Takes d e s report d' e') :
    Delivery.Sends e.device report.result report.journal.calls := by
  cases takes with
  | request _ does => exact does.sends
  | settings c => exact Delivery.sends_nothing
  | host c => exact Delivery.sends_nothing

end Desk

/-! ## 3. Runs -/

namespace Delivery

variable {d : Device} {r : Except Failure Unit} {calls : List ShellCall} {a : Address}
  {alert : Alert} {user : Int}

theorem Sends.present (sends : Sends d r calls) (h : .present a alert user ∈ calls) :
    (∃ p ∈ d.profiles, p.handle = user ∧ p.Hears a.topic ∧
      (a.topic ∈ ownerTaps → p.isOwner = false → alert.contentAction = none)) ∧
    (r = .ok () → ∃ copy : Profile → Alert, calls =
      (d.profiles.filter fun p => p.Hears a.topic).map fun p => .present a (copy p) p.handle) := by
  cases sends with
  | withdrawn hw => exact absurd (hw _ h) id
  | @told b made o _ owner part whole =>
    obtain ⟨p, hp, hadmits, hcall⟩ := mem_told (part.subset h)
    obtain ⟨rfl, rfl, rfl⟩ : a = b ∧ alert = personal { made with address := b } o p ∧
        user = p.handle := by simpa using hcall
    refine ⟨⟨p, hp, rfl, admits_iff.1 hadmits, fun htap hp => ?_⟩, fun hok => ?_⟩
    · rw [owner htap]
      exact personal_contentAction hp
    · refine ⟨personal { made with address := a } o, ?_⟩
      have hfilter : d.profiles.filter a.topic.audience.admits =
          d.profiles.filter fun p => p.Hears a.topic :=
        List.filter_congr fun p _ => by rw [← Bool.coe_iff_coe, decide_eq_true_iff, admits_iff]
      rw [whole hok, toldOn, Delivery.told, hfilter]

theorem Sends.cancel (sends : Sends d r calls) (h : .cancel a user ∈ calls) : user = allUsers := by
  cases sends with
  | withdrawn hw => exact hw _ h
  | told _ part _ =>
    obtain ⟨p, -, -, hcall⟩ := mem_told (part.subset h)
    exact absurd hcall nofun

end Delivery

namespace Desk

/-- Any step of any run shows alerts only to users that the topic is for, among those of the device
at that time, and without a tap where only the owner has one; where it succeeds, to each of them
once, in the order of the device. -/
theorem audience_respected (d : Desk) (e : Session) (past : List Step) (s : Step) :
    let before := (run past (d, e)).2
    let profiles := before.2.device.profiles
    let report := (s.op.report before).1
    (∀ a alert user, .present a alert user ∈ report.journal.calls →
      (∃ p ∈ profiles, p.handle = user ∧ p.Hears a.topic ∧
        (a.topic ∈ ownerTaps → p.isOwner = false → alert.contentAction = none)) ∧
      (report.result = .ok () → ∃ copy : Profile → Alert, report.journal.calls =
        (profiles.filter fun p => p.Hears a.topic).map fun p => .present a (copy p) p.handle)) ∧
    ∀ a user, .cancel a user ∈ report.journal.calls → user = allUsers := by
  intro before profiles report
  have sends : Delivery.Sends before.2.device report.result report.journal.calls :=
    (takes before.1 before.2 s).sends
  exact ⟨fun a alert user h => sends.present h, fun a user h => sends.cancel h⟩

/-- The owner has a managed profile, one user is listed twice, and one may not place calls. -/
def crowd : List Profile :=
  [{ handle := 0, isOwner := true, isManaged := true }, { handle := 1, isOwner := true },
    { handle := 10 }, { handle := 10 }, { handle := 12, restrictions := [.outgoingCalls] }]

theorem audience_respected_crowd :
    let before := (run [.host (.device (.profiles crowd))] (fresh, { device := twoUsers })).2
    let report (visible : Bool) :=
      ((Step.request (.updateForwarding 5 visible)).op.report before).1
    let a : Address := ⟨.callForward, some 5⟩
    let alert : Alert :=
      { address := a, title := "Call forwarding", body := "Always forward", ongoing := true }
    .present a alert 10 ∈ (report true).journal.calls ∧ (report true).result = .ok () ∧
      (∃ p ∈ crowd, p.handle = 10 ∧ p.Hears .callForward) ∧
      (∃ copy : Profile → Alert, (report true).journal.calls =
        (crowd.filter fun p => p.Hears .callForward).map fun p => .present a (copy p) p.handle) ∧
      (crowd.filter fun p => p.Hears .callForward).map (·.handle) = [1, 10, 10, 12] ∧
      .cancel a (-1) ∈ (report false).journal.calls ∧ (-1 : Int) = allUsers := by
  intro before report a alert
  obtain ⟨presents, -⟩ := audience_respected fresh { device := twoUsers }
    [.host (.device (.profiles crowd))] (.request (.updateForwarding 5 true))
  obtain ⟨-, cancels⟩ := audience_respected fresh { device := twoUsers }
    [.host (.device (.profiles crowd))] (.request (.updateForwarding 5 false))
  have present : .present a alert 10 ∈ (report true).journal.calls := by decide +kernel
  have ok : (report true).result = .ok () := eq_ok_of_isOk (by decide +kernel)
  have cancel : .cancel a (-1) ∈ (report false).journal.calls := by decide +kernel
  obtain ⟨⟨p, hp, hhandle, hears, -⟩, whole⟩ := presents a alert 10 present
  exact ⟨present, ok, ⟨p, hp, hhandle, hears⟩, whole ok, by decide +kernel, cancel,
    cancels a (-1) cancel⟩

end Desk

end TelephonyAlerts
