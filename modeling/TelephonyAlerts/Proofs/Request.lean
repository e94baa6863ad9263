import TelephonyAlerts.Desk.Request
import TelephonyAlerts.Proofs.Delivery

/-!
# What a request does

For every request the calls it can make, with what the desk remembers afterwards.  A failure may
come at any call to the host, so each relation has a case for every place where the request can
end.
-/

namespace TelephonyAlerts

open TelephonyAlerts.Data TelephonyAlerts.Template

/-! ## 1. Showing and cancelling -/

namespace Delivery

/-- What comes of an alert that is made and then shown: it may not be made, and else all of the
calls are made, or a part of them before the request fails. -/
def Shown (d : Device) (address : Address) (ownerOnlyAction : Bool)
    (made : Except RenderError Alert) (result : Except Failure Unit) (calls : List ShellCall) :
    Prop :=
  match made with
  | .error cause => result = .error (.render cause) ∧ calls = []
  | .ok alert => calls = toldOn d address alert ownerOnlyAction ∨
      (∃ f, result = .error f) ∧ calls <+: toldOn d address alert ownerOnlyAction

/-- What comes of a cancellation. -/
def Cancelled (e : Session) (address : Address) (result : Except Failure Unit)
    (calls : List ShellCall) : Prop :=
  calls = [.cancel address allUsers] ∨ calls = [] ∧ ∃ f, result = .error f ∧ e.Fails .cancel f

theorem Cancelled.after {e e' : Session} {cs calls : List ShellCall} {address : Address}
    {r : Except Failure Unit} (he : e.After cs e') (h : Cancelled e' address r calls) :
    Cancelled e address r calls := by
  obtain h | ⟨hnil, f, hr, hf⟩ := h
  · exact Or.inl h
  · exact Or.inr ⟨hnil, f, hr, he.fails hf⟩

variable {σ : Type} {s : σ} {e : Session}

section Shown

variable {k : List Int → Op σ Unit} (hk : ∀ handles, Op.Quiet (k handles))
include hk

theorem presented_ends (address : Address) (alert : Alert) (o : Bool) :
    (present address alert o >>= k).Ends s e fun r s' e' => s' = s ∧
      ∃ calls, e.After calls e' ∧ Shown e.device address o (.ok alert) r calls := by
  refine Op.Ends.bind (present_ends address alert o) ?_ ?_
  · -- what follows the showing makes no calls, so it may fail and leave all of them made
    intro handles s' e' h
    obtain ⟨rfl, calls, he, hcalls, -⟩ := h
    exact (hk handles).ends fun r e'' he' => ⟨rfl, calls, he.still he', Or.inl hcalls⟩
  · intro f s' e' h
    obtain ⟨rfl, calls, he, hpart, -⟩ := h
    exact ⟨rfl, calls, he, Or.inr ⟨⟨f, rfl⟩, hpart⟩⟩

theorem show_ends (made : Except RenderError Alert) (address : Address) (o : Bool) :
    (Op.ofRender made >>= fun a => present address a o >>= k).Ends s e fun r s' e' => s' = s ∧
      ∃ calls, e.After calls e' ∧ Shown e.device address o made r calls := by
  refine Op.ends_ofRender (fun alert hmade => ?_) (fun cause hmade => ?_)
  · rw [hmade]
    exact presented_ends hk address alert o
  · rw [hmade]
    exact ⟨rfl, [], .refl e, rfl, rfl⟩

end Shown

theorem withdraw_ends (address : Address) {k : Unit → Op σ Unit} (hk : Op.Quiet (k ())) :
    (cancel address >>= k).Ends s e fun r s' e' => s' = s ∧
      ∃ calls, e.After calls e' ∧ Cancelled e address r calls := by
  refine Op.Ends.bind (cancel_ends address) ?_ ?_
  · intro _ s' e' h
    obtain ⟨rfl, he⟩ := h
    exact hk.ends fun r e'' he' => ⟨rfl, _, he.still he', Or.inl rfl⟩
  · intro f s' e' h
    obtain ⟨rfl, hf, he⟩ := h
    exact ⟨rfl, [], he, Or.inr ⟨rfl, f, rfl, hf⟩⟩

end Delivery

/-! ## 2. What was blocked -/

namespace Blocked

/-- What forgetting the events of some media does, one medium after the other. -/
inductive Cleared (e : Session) :
    List Medium → History → Except Failure Unit → List ShellCall → History → Prop
  | done (h : History) : Cleared e [] h (.ok ()) [] h
  | next {m : Medium} {ms : List Medium} {h h' : History} {r : Except Failure Unit}
      {calls : List ShellCall} (rest : Cleared e ms (h.clear m) r calls h') :
      Cleared e (m :: ms) h r (.cancel { topic := m.topic } allUsers :: calls) h'
  | unrecorded (m : Medium) (ms : List Medium) (h : History) (f : Failure) :
      Cleared e (m :: ms) h (.error f) [.cancel { topic := m.topic } allUsers] (h.clear m)
  | uncancelled {m : Medium} {ms : List Medium} {h : History} {f : Failure}
      (hf : e.Fails .cancel f) : Cleared e (m :: ms) h (.error f) [] (h.clear m)

theorem Cleared.after {e e' : Session} {cs calls : List ShellCall} {ms : List Medium}
    {h h' : History} {r : Except Failure Unit} (he : e.After cs e')
    (hc : Cleared e' ms h r calls h') : Cleared e ms h r calls h' := by
  induction hc with
  | done h => exact .done h
  | next _ ih => exact .next ih
  | unrecorded m ms h f => exact .unrecorded m ms h f
  | uncancelled hf => exact .uncancelled (he.fails hf)

variable {h : History} {e : Session} {c : Context}

theorem enter_ends (w : Wording) (m : Medium) (event : BlockedEvent) :
    (enter w m event).Ends h e fun r h' e' => h' = h.push m event ∧ e' = e ∧
      r = (m.summary w e.device.now event (h.events m)).mapError .render := by
  refine Op.ends_own (Op.ends_modifyOwn (Op.ends_device ?_))
  unfold Op.Ends
  rw [Op.ofRender, Op.ofExcept_apply]
  exact ⟨rfl, rfl, rfl⟩

theorem clearEach_ends (ms : List Medium) :
    (ms.forM (clearMedium c)).Ends h e fun r h' e' =>
      ∃ calls, e.After calls e' ∧ Cleared e ms h r calls h' := by
  induction ms generalizing h e with
  | nil => exact ⟨[], .refl e, .done h⟩
  | cons m ms ih =>
    -- the events of a medium are forgotten first, then its alert is cancelled and that recorded
    refine Op.Ends.bind (R := fun r h' e' => h' = h.clear m ∧ match r with
      | .ok _ => e.After [.cancel { topic := m.topic } allUsers] e'
      | .error f => e.After [.cancel { topic := m.topic } allUsers] e' ∨
          e.Fails .cancel f ∧ e.After [] e') ?_ ?_ ?_
    · refine Op.Ends.bind (R := fun r h' e' => (∃ n, r = .ok n) ∧ h' = h.clear m ∧ e' = e)
        ⟨⟨_, rfl⟩, rfl, rfl⟩ ?_ ?_
      · intro dropped h' e' h
        obtain ⟨-, rfl, rfl⟩ := h
        refine Op.ends_log fun e₁ he₁ => ?_
        refine Op.Ends.bind (Delivery.cancel_ends _) ?_ ?_
        · intro _ h'' e₂ h
          obtain ⟨rfl, he₂⟩ := h
          refine (Op.Quiet.record _ _).ends fun r e₃ he₃ => ?_
          cases r with
          | error f => exact ⟨rfl, Or.inl ((he₁.then he₂).still he₃)⟩
          | ok _ => exact ⟨rfl, (he₁.then he₂).still he₃⟩
        · intro f h'' e₂ h
          obtain ⟨rfl, hf, he₂⟩ := h
          exact ⟨rfl, Or.inr ⟨he₁.fails hf, he₁.then he₂⟩⟩
      · intro f h' e' h
        obtain ⟨⟨n, hn⟩, -⟩ := h
        cases hn
    · intro _ h' e' h
      obtain ⟨rfl, he⟩ := h
      refine (ih (h := h.clear m) (e := e')).mono ?_
      intro r h'' e'' h
      obtain ⟨calls, he', hc⟩ := h
      exact ⟨_, he.trans he', .next (hc.after he)⟩
    · intro f h' e' h
      obtain ⟨rfl, he | ⟨hf, he⟩⟩ := h
      · exact ⟨_, he, .unrecorded m ms h f⟩
      · exact ⟨[], he, .uncancelled hf⟩

theorem clear_of_mask {given : Datum} {mask : Mask} (hmask : Mask.ofDatum given = .ok mask) :
    clear c given = clearSelected c mask := by
  rw [clear, hmask]
  rfl

theorem clear_of_refused {given : Datum} {cause : NotAMember}
    (hrefused : Mask.ofDatum given = .error cause) :
    clear c given = throw (.notAMember cause) := by
  rw [clear, hrefused]
  rfl

end Blocked

/-! ## 3. The indicators of a line -/

namespace Voicemail

variable {v : Visibility} {e : Session} {c : Context}

/-- What showing the indicator of a line does: nothing, unless the phone and the line are found
and the number is known as well as it will be. -/
def Announced (d : Device) (w : Wording) (line : Int) (sound : Bool)
    (result : Except Failure Unit) (calls : List ShellCall) : Prop :=
  calls = [] ∨ ∃ phone info, d.phones.get? line = some phone ∧ d.lines.get? line = some info ∧
    (phone.number.isNone && !phone.simLoaded) = false ∧
    Delivery.Shown d ⟨.voicemail, some line⟩ false (alert w d line phone info sound) result calls

-- Both lookups answer as the device stands, or the request goes on without them.
theorem lookup_ends (line : Int) (e : Session) :
    (Op.resolving do
      let phone ← Op.phone line
      let info ← Op.line line
      return (phone, info) : Op Visibility (Except Unresolved (Phone × Line))).Ends v e
      fun r v' e' => v' = v ∧ e.After [] e' ∧ ∀ phone info, r = .ok (.ok (phone, info)) →
        e.device.phones.get? line = some phone ∧ e.device.lines.get? line = some info := by
  refine (Op.resolving_ends (R := fun r v' e' => v' = v ∧ e.After [] e' ∧ ∀ a, r = .ok a →
    e.device.phones.get? line = some a.1 ∧ e.device.lines.get? line = some a.2) ?_).mono ?_
  · refine Op.Ends.bind (Op.phone_ends line v e) ?_ ?_
    · intro phone v' e' h
      obtain ⟨rfl, he, hphone⟩ := h
      refine Op.Ends.bind (Op.line_ends line v' e') ?_ ?_
      · intro info v'' e'' h
        obtain ⟨rfl, he', hinfo⟩ := h
        refine ⟨rfl, he.then he', ?_⟩
        intro a h
        obtain ⟨⟩ := h
        rw [he.device] at hinfo
        exact ⟨hphone phone rfl, hinfo info rfl⟩
      · intro f v'' e'' h
        obtain ⟨rfl, he', -⟩ := h
        exact ⟨rfl, he.then he', nofun⟩
    · intro f v' e' h
      obtain ⟨rfl, he, -⟩ := h
      exact ⟨rfl, he, nofun⟩
  · intro r v' e' h
    obtain ⟨r', ⟨rfl, he, h⟩, hr⟩ := h
    exact ⟨rfl, he, fun phone info hfound => h (phone, info) (hr _ hfound)⟩

theorem announce_ends (line : Int) (sound : Bool) :
    (announce c line sound).Ends v e fun r v' e' => v' = v ∧
      ∃ calls, e.After calls e' ∧ Announced e.device c.wording line sound r calls := by
  refine Op.Ends.bind (lookup_ends line e) ?_ ?_
  · intro found v' e' h
    obtain ⟨rfl, he, hfound⟩ := h
    obtain u | ⟨phone, info⟩ := found
    · exact Op.ends_log fun e₁ he₁ => (Op.Quiet.record _ _).ends fun r e₂ he₂ =>
        ⟨rfl, [], (he.then he₁).then he₂, Or.inl rfl⟩
    · obtain ⟨hphone, hinfo⟩ := hfound phone info rfl
      dsimp only
      split
      · exact Op.ends_log fun e₁ he₁ => (Op.Quiet.record _ _).ends fun r e₂ he₂ =>
          ⟨rfl, [], (he.then he₁).then he₂, Or.inl rfl⟩
      · rename_i hready
        refine Op.ends_device ((Delivery.show_ends (fun _ => Op.Quiet.record _ _) _ _ _).mono ?_)
        intro r v'' e'' h
        obtain ⟨rfl, calls, he', hshown⟩ := h
        rw [he.device] at hshown
        exact ⟨rfl, calls, he.then he', Or.inr ⟨phone, info, hphone, hinfo,
          Bool.eq_false_iff.2 hready, hshown⟩⟩
  · intro f v' e' h
    obtain ⟨rfl, he, -⟩ := h
    exact ⟨rfl, [], he, Or.inl rfl⟩

-- What an update does on a device that can place calls.
theorem update_ends (line : Int) (visible sound : Bool) :
    (update c true line visible sound).Ends v e fun r v' e' => v' = v.insert line visible ∧
      ∃ calls, e.After calls e' ∧
        if visible then Announced e.device c.wording line sound r calls
        else Delivery.Cancelled e ⟨.voicemail, some line⟩ r calls := by
  refine Op.ends_log fun e₁ he₁ => Op.ends_modifyOwn ?_
  cases visible with
  | true =>
    refine (announce_ends line sound).mono ?_
    intro r v' e' h
    obtain ⟨rfl, calls, he, h⟩ := h
    rw [he₁.device] at h
    exact ⟨rfl, calls, he₁.then he, h⟩
  | false =>
    refine (Delivery.withdraw_ends _ (Op.Quiet.record _ _)).mono ?_
    intro r v' e' h
    obtain ⟨rfl, calls, he, h⟩ := h
    exact ⟨rfl, calls, he₁.then he, h.after he₁⟩

-- A device that cannot place calls keeps no indicators.
theorem update_incapable (line : Int) (visible sound : Bool) :
    (update c false line visible sound).Ends v e fun _ v' e' => v' = v ∧ e.After [] e' := by
  exact Op.ends_log fun e₁ he₁ => (Op.Quiet.record _ _).ends fun r e₂ he₂ => ⟨rfl, he₁.then he₂⟩

end Voicemail

namespace Forwarding

variable {v : Visibility} {e : Session} {c : Context}

/-- What showing the indicator of a line does: nothing, unless the directory knows the line. -/
def Announced (d : Device) (w : Wording) (line : Int) (result : Except Failure Unit)
    (calls : List ShellCall) : Prop :=
  calls = [] ∨ ∃ info, d.lines.get? line = some info ∧
    Delivery.Shown d ⟨.callForward, some line⟩ true (alert w d info) result calls

theorem announce_ends (line : Int) :
    (announce c line).Ends v e fun r v' e' => v' = v ∧
      ∃ calls, e.After calls e' ∧ Announced e.device c.wording line r calls := by
  refine Op.Ends.bind (Op.resolving_ends (Op.line_ends line v e)) ?_ ?_
  · intro found v' e' h
    obtain ⟨r, ⟨rfl, he, hinfo⟩, hfound⟩ := h
    obtain u | info := found
    · exact Op.ends_log fun e₁ he₁ => (Op.Quiet.record _ _).ends fun r e₂ he₂ =>
        ⟨rfl, [], (he.then he₁).then he₂, Or.inl rfl⟩
    · refine Op.ends_device ((Delivery.show_ends (fun _ => Op.Quiet.record _ _) _ _ _).mono ?_)
      intro r' v'' e'' h
      obtain ⟨rfl, calls, he', hshown⟩ := h
      rw [he.device] at hshown
      exact ⟨rfl, calls, he.then he', Or.inr ⟨info, hinfo info (hfound info rfl), hshown⟩⟩
  · intro f v' e' h
    obtain ⟨r, ⟨rfl, he, -⟩, -⟩ := h
    exact ⟨rfl, [], he, Or.inl rfl⟩

theorem update_ends (line : Int) (visible : Bool) :
    (update c line visible).Ends v e fun r v' e' => v' = v.insert line visible ∧
      ∃ calls, e.After calls e' ∧
        if visible then Announced e.device c.wording line r calls
        else Delivery.Cancelled e ⟨.callForward, some line⟩ r calls := by
  refine Op.ends_log fun e₁ he₁ => Op.ends_modifyOwn ?_
  cases visible with
  | true =>
    refine (announce_ends line).mono ?_
    intro r v' e' h
    obtain ⟨rfl, calls, he, h⟩ := h
    rw [he₁.device] at h
    exact ⟨rfl, calls, he₁.then he, h⟩
  | false =>
    refine (Delivery.withdraw_ends _ (Op.Quiet.record _ _)).mono ?_
    intro r v' e' h
    obtain ⟨rfl, calls, he, h⟩ := h
    exact ⟨rfl, calls, he₁.then he, h.after he₁⟩

end Forwarding

/-! ## 4. The network -/

namespace Operator

variable {shown : Bool} {e : Session} {c : Context}

def address : Address := { topic := .operatorUnavailable }

/-- Whether a service state calls for the alert on a device. -/
def Due (d : Device) (service : Service) : Prop :=
  service = .outOfService ∧ d.operatorOf d.defaultLine ≠ ""

/-- Whether a device is told of service states at all. -/
def Watched (d : Device) : Prop := d.choosesOperator ∧ 0 ≤ d.defaultLine

/-- What following a service state does to the latch, and the calls that it makes.  A showing that
was broken off leaves the latch open. -/
inductive Followed (d : Device) (w : Wording) (service : Service) :
    Bool → Except Failure Unit → List ShellCall → Bool → Prop
  | idle {shown : Bool} {r : Except Failure Unit}
      (settled : r = .ok () → Watched d → (shown = true ↔ Due d service)) :
      Followed d w service shown r [] shown
  | raised {a : Alert} {r : Except Failure Unit} (due : Due d service)
      (made : alert w (d.operatorOf d.defaultLine) = .ok a) :
      Followed d w service false r (Delivery.toldOn d address a true) true
  | brokenOff {a : Alert} {f : Failure} {calls : List ShellCall} (due : Due d service)
      (made : alert w (d.operatorOf d.defaultLine) = .ok a)
      (part : calls <+: Delivery.toldOn d address a true)
      (some_left : calls = Delivery.toldOn d address a true → calls = []) :
      Followed d w service false (.error f) calls false
  | lowered {r : Except Failure Unit} (ended : ¬ Due d service) :
      Followed d w service true r [.cancel address allUsers] false

theorem operatorOf_eq {d : Device} {line : Int} {operator : String}
    (h : d.selectionOf line = .ok operator) : d.operatorOf line = operator := by
  rw [Device.operatorOf, h]
  rfl

theorem chosenOperator_ends (line : Int) :
    (Device.chosenOperator Op.preference line : Op Bool String).Ends shown e fun r shown' e' =>
      shown' = shown ∧ e.After [] e' ∧ ∀ operator, r = .ok operator →
        e.device.selectionOf line = .ok operator := by
  refine Op.Ends.bind (Op.preference_ends _ shown e) ?_ ?_
  · intro name shown' e' h
    obtain ⟨rfl, he, hname⟩ := h
    have hselection : e.device.selectionOf line = if name.isEmpty then
        (Device.operatorNumberKey line).map e.device.preference else .ok name := by
      rw [Device.selectionOf, Device.chosenOperator, hname name rfl]
      rfl
    rw [hselection]
    split
    · refine (Op.preference_ends _ shown' e').mono ?_
      intro r shown'' e'' h
      obtain ⟨rfl, he', hnumber⟩ := h
      rw [he.device] at hnumber
      exact ⟨rfl, he.then he', hnumber⟩
    · refine ⟨rfl, he, fun operator hr => ?_⟩
      obtain rfl : name = operator := Except.ok.inj hr
      rfl
  · intro f shown' e' h
    obtain ⟨rfl, he, -⟩ := h
    exact ⟨rfl, he, nofun⟩

theorem raise_ends {service : Service} (due : Due e.device service) :
    (raise c e.device.defaultLine (e.device.operatorOf e.device.defaultLine)).Ends false e
      fun r shown' e' => ∃ calls, e.After calls e' ∧
        Followed e.device c.wording service false r calls shown' := by
  refine Op.ends_ofRender (fun a made => ?_) (fun cause made => ?_)
  · refine Op.Ends.bind (Delivery.present_ends address a true) ?_ ?_
    · intro handles shown' e' h
      obtain ⟨rfl, calls, he, rfl, -⟩ := h
      exact Op.ends_modifyOwn ((Op.Quiet.record _ _).ends fun r e'' he' =>
        ⟨_, he.still he', .raised due made⟩)
    · intro f shown' e' h
      obtain ⟨rfl, calls, he, part, some_left⟩ := h
      exact ⟨calls, he, .brokenOff due made part some_left⟩
  · exact ⟨[], .refl e, .idle nofun⟩

theorem lower_ends {service : Service} {line : Int} (ended : ¬ Due e.device service) :
    (lower c line).Ends true e fun r shown' e' => ∃ calls, e.After calls e' ∧
      Followed e.device c.wording service true r calls shown' := by
  refine Op.Ends.bind (Delivery.cancel_ends address) ?_ ?_
  · intro _ shown' e' h
    obtain ⟨rfl, he⟩ := h
    exact Op.ends_modifyOwn ((Op.Quiet.record _ _).ends fun r e'' he' =>
      ⟨_, he.still he', .lowered ended⟩)
  · intro f shown' e' h
    obtain ⟨rfl, -, he⟩ := h
    exact ⟨[], he, .idle nofun⟩

-- With the operator known, the latch and the service state decide.
theorem settle_ends (shown : Bool) (service : Service) :
    (if service = .outOfService ∧ e.device.operatorOf e.device.defaultLine ≠ "" then
        if !shown then
          raise c e.device.defaultLine (e.device.operatorOf e.device.defaultLine)
        else pure ()
      else if shown then lower c e.device.defaultLine else pure () : Op Bool Unit).Ends shown e
      fun r shown' e' => ∃ calls, e.After calls e' ∧
        Followed e.device c.wording service shown r calls shown' := by
  by_cases due : service = .outOfService ∧ e.device.operatorOf e.device.defaultLine ≠ ""
  · rw [if_pos due]
    cases shown with
    | false => exact raise_ends due
    | true => exact ⟨[], .refl e, .idle fun _ _ => iff_of_true rfl due⟩
  · rw [if_neg due]
    cases shown with
    | true => exact lower_ends due
    | false => exact ⟨[], .refl e, .idle fun _ _ => iff_of_false nofun due⟩

theorem update_ends (service : Service) :
    (update c service).Ends shown e fun r shown' e' => ∃ calls, e.After calls e' ∧
      Followed e.device c.wording service shown r calls shown' := by
  refine Op.ends_device ?_
  by_cases hchooses : e.device.choosesOperator
  · rw [if_pos hchooses]
    dsimp only
    by_cases hline : e.device.defaultLine < 0
    · rw [if_pos hline]
      exact (Op.Quiet.log _ _ _).ends fun r e' he =>
        ⟨[], he, .idle fun _ hw => absurd hw.2 (by omega)⟩
    · rw [if_neg hline]
      refine Op.Ends.bind (chosenOperator_ends _) ?_ ?_
      · intro operator shown' e₁ h
        obtain ⟨rfl, he₁, hoperator⟩ := h
        obtain rfl := operatorOf_eq (hoperator operator rfl)
        refine Op.ends_log fun e₂ he₂ => Op.ends_own ?_
        -- the device has not changed since the preferences were read
        have he := he₁.then he₂
        rw [← he.device]
        refine (settle_ends shown' service).mono fun r shown'' e' h => ?_
        obtain ⟨calls, he', h⟩ := h
        exact ⟨calls, he.then he', h⟩
      · intro f shown' e' h
        obtain ⟨rfl, he, -⟩ := h
        exact ⟨[], he, .idle nofun⟩
  · rw [if_neg hchooses]
    exact ⟨[], .refl e, .idle fun _ hw => absurd hw.1 hchooses⟩

end Operator

namespace Roaming

variable {σ : Type} {s : σ} {e : Session} {c : Context}

def address : Address := { topic := .roamingDisconnected }

theorem announce_ends :
    (announce c : Op σ Unit).Ends s e fun r s' e' => s' = s ∧ ∃ calls, e.After calls e' ∧
      Delivery.Shown e.device address true (alert c.wording) r calls :=
  Delivery.show_ends (fun _ => Op.Quiet.record _ _) _ address true

theorem withdraw_ends :
    (withdraw c : Op σ Unit).Ends s e fun r s' e' => s' = s ∧ ∃ calls, e.After calls e' ∧
      Delivery.Cancelled e address r calls :=
  Delivery.withdraw_ends address (Op.Quiet.record _ _)

end Roaming

/-! ## 5. Requests to the desk -/

namespace Desk

variable {d : Desk} {e : Session}

/-- What a request does at a desk: its result, the calls that it makes, and the desk that it
leaves. -/
inductive Does (e : Session) (d : Desk) :
    Request → Except Failure Unit → List ShellCall → Desk → Prop
  | untold {m : Medium} {number : Option String} {time : Calendar.Moment} {matched : MatchKind}
      {r : Except Failure Unit} (off : d.settings.tellsBlocked = false) :
      Does e d (.blocked m number time matched) r [] d
  | told {m : Medium} {number : Option String} {time : Calendar.Moment} {matched : MatchKind}
      {r : Except Failure Unit} {calls : List ShellCall} (on : d.settings.tellsBlocked = true)
      (shown : Delivery.Shown e.device { topic := m.topic } false
        (m.summary d.wording e.device.now (Blocked.event number time matched) (d.history.events m))
        r calls) :
      Does e d (.blocked m number time matched) r calls
        { d with history := d.history.push m (Blocked.event number time matched) }
  | cleared {given : Datum} {mask : Mask} {r : Except Failure Unit} {calls : List ShellCall}
      {h : History} (selected : Mask.ofDatum given = .ok mask)
      (cleared : Blocked.Cleared e mask.media d.history r calls h) :
      Does e d (.clearBlocked given) r calls { d with history := h }
  | refused {given : Datum} {cause : NotAMember} (refused : Mask.ofDatum given = .error cause) :
      Does e d (.clearBlocked given) (.error (.notAMember cause)) [] d
  | incapable {line : Int} {visible sound : Bool} {r : Except Failure Unit}
      (incapable : d.voiceCapable = false) :
      Does e d (.updateVoicemail line visible sound) r [] d
  | voicemailShown {line : Int} {sound : Bool} {r : Except Failure Unit} {calls : List ShellCall}
      (capable : d.voiceCapable = true)
      (announced : Voicemail.Announced e.device d.wording line sound r calls) :
      Does e d (.updateVoicemail line true sound) r calls
        { d with voicemail := d.voicemail.insert line true }
  | voicemailHidden {line : Int} {sound : Bool} {r : Except Failure Unit} {calls : List ShellCall}
      (capable : d.voiceCapable = true)
      (cancelled : Delivery.Cancelled e ⟨.voicemail, some line⟩ r calls) :
      Does e d (.updateVoicemail line false sound) r calls
        { d with voicemail := d.voicemail.insert line false }
  | unrefreshed {line : Int} {r : Except Failure Unit}
      (hidden : d.showsVoicemail (d.voicemail.meant noLine line) = false) :
      Does e d (.refreshVoicemail line) r [] d
  | refreshed {line : Int} {r : Except Failure Unit} {calls : List ShellCall} {d' : Desk}
      (shown : d.showsVoicemail (d.voicemail.meant noLine line) = true)
      (again : Does e d (.updateVoicemail (d.voicemail.meant noLine line) true false) r calls d') :
      Does e d (.refreshVoicemail line) r calls d'
  | forwardingShown {line : Int} {r : Except Failure Unit} {calls : List ShellCall}
      (announced : Forwarding.Announced e.device d.wording line r calls) :
      Does e d (.updateForwarding line true) r calls
        { d with forwarding := d.forwarding.insert line true }
  | forwardingHidden {line : Int} {r : Except Failure Unit} {calls : List ShellCall}
      (cancelled : Delivery.Cancelled e ⟨.callForward, some line⟩ r calls) :
      Does e d (.updateForwarding line false) r calls
        { d with forwarding := d.forwarding.insert line false }
  | followed {service : Service} {r : Except Failure Unit} {calls : List ShellCall} {shown : Bool}
      (followed : Operator.Followed e.device d.wording service d.operatorShown r calls shown) :
      Does e d (.updateService service) r calls { d with operatorShown := shown }
  | roamingShown {r : Except Failure Unit} {calls : List ShellCall}
      (shown : Delivery.Shown e.device Roaming.address true (Roaming.alert d.wording) r calls) :
      Does e d .showRoaming r calls d
  | roamingHidden {r : Except Failure Unit} {calls : List ShellCall}
      (cancelled : Delivery.Cancelled e Roaming.address r calls) :
      Does e d .hideRoaming r calls d
  | transient {text : String} {r : Except Failure Unit} {calls : List ShellCall}
      (part : List.Sublist calls [.cancelTransient, .showTransient text]) :
      Does e d (.transient text) r calls d

variable {Q : Except Failure Unit → Desk → Session → Prop}

theorem ends_onHistory {op : Op History Unit}
    (h : op.Ends d.history e fun r history e' => Q r { d with history } e') :
    (onHistory op).Ends d e Q := h

theorem ends_onVoicemail {op : Op Visibility Unit}
    (h : op.Ends d.voicemail e fun r voicemail e' => Q r { d with voicemail } e') :
    (onVoicemail op).Ends d e Q := h

theorem ends_onForwarding {op : Op Visibility Unit}
    (h : op.Ends d.forwarding e fun r forwarding e' => Q r { d with forwarding } e') :
    (onForwarding op).Ends d e Q := h

theorem ends_onOperator {op : Op Bool Unit}
    (h : op.Ends d.operatorShown e fun r operatorShown e' => Q r { d with operatorShown } e') :
    (onOperator op).Ends d e Q := h

theorem blocked_ends (m : Medium) (number : Option String) (time : Calendar.Moment)
    (matched : MatchKind) :
    (d.answer (.blocked m number time matched)).Ends d e fun r d' e' =>
      ∃ calls, e.After calls e' ∧ Does e d (.blocked m number time matched) r calls d' := by
  refine ends_onHistory ?_
  unfold Blocked.record
  by_cases on : d.settings.tellsBlocked = true
  · rw [if_neg (by simp [on])]
    refine Op.Ends.bind (Blocked.enter_ends _ _ _) ?_ ?_
    · intro alert h e' hentered
      obtain ⟨rfl, rfl, hmade⟩ := hentered
      have made : m.summary d.wording _ _ _ = _ := mapError_eq_ok.1 hmade.symm
      refine (Delivery.presented_ends (fun _ => Op.Quiet.record _ _) _ alert false).mono ?_
      intro r h' e'' hshown
      obtain ⟨rfl, calls, he, hshown⟩ := hshown
      refine ⟨calls, he, .told on ?_⟩
      rw [made]
      exact hshown
    · intro f h e' hentered
      obtain ⟨rfl, rfl, hmade⟩ := hentered
      refine ⟨[], .refl _, .told on ?_⟩
      change _ = (m.summary d.wording _ _ _).mapError _ at hmade
      cases hsummary : m.summary d.wording e'.device.now (Blocked.event number time matched)
        (d.history.events m) with
      | ok alert =>
        rw [hsummary] at hmade
        cases hmade
      | error cause =>
        rw [hsummary] at hmade
        exact ⟨congrArg Except.error (Except.error.inj hmade), rfl⟩
  · have off := Bool.eq_false_iff.2 on
    rw [if_pos (by simp [off])]
    exact Op.ends_log fun e₁ he₁ => (Op.Quiet.record _ _).ends fun r e₂ he₂ =>
      ⟨[], he₁.then he₂, .untold off⟩

theorem updateVoicemail_ends {capable : Bool} (hcapable : d.voiceCapable = capable) (line : Int)
    (visible sound : Bool) :
    (Voicemail.update d.context capable line visible sound).Ends d.voicemail e
      fun r voicemail e' => ∃ calls, e.After calls e' ∧
        Does e d (.updateVoicemail line visible sound) r calls { d with voicemail } := by
  cases capable with
  | true =>
    refine (Voicemail.update_ends line visible sound).mono ?_
    intro r v' e' h
    obtain ⟨rfl, calls, he, h⟩ := h
    cases visible with
    | true => exact ⟨calls, he, .voicemailShown hcapable h⟩
    | false => exact ⟨calls, he, .voicemailHidden hcapable h⟩
  | false =>
    refine (Voicemail.update_incapable line visible sound).mono ?_
    intro r v' e' h
    obtain ⟨rfl, he⟩ := h
    exact ⟨[], he, .incapable hcapable⟩

theorem refreshVoicemail_ends (line : Int) :
    (d.answer (.refreshVoicemail line)).Ends d e fun r d' e' =>
      ∃ calls, e.After calls e' ∧ Does e d (.refreshVoicemail line) r calls d' := by
  refine ends_onVoicemail (Op.ends_own ?_)
  by_cases shown : d.voicemail.shows (d.voicemail.meant noLine line) = true
  · simp only [if_pos shown]
    refine (updateVoicemail_ends (d := d) (e := e) rfl _ true false).mono ?_
    intro r d' e' h
    obtain ⟨calls, he, h⟩ := h
    exact ⟨calls, he, .refreshed shown h⟩
  · simp only [if_neg shown]
    exact (Op.Quiet.log _ _ _).ends fun r e' he =>
      ⟨[], he, .unrefreshed (Bool.eq_false_iff.2 shown)⟩

-- A call that is made only where the host can show short-lived messages.
theorem ends_whereShown (m : Method) (c : ShellCall) :
    (Op.device >>= fun dev => if dev.showsTransients then Op.call m >>= fun _ => Op.note c
      else pure () : Op Desk Unit).Ends d e fun _ d' e' => d' = d ∧
      ∃ calls, e.After calls e' ∧ List.Sublist calls [c] := by
  refine Op.ends_device ?_
  split
  · refine (Op.ends_noted m c).mono fun r d' e' h => ?_
    obtain ⟨rfl, h⟩ := h
    cases r with
    | ok _ => exact ⟨rfl, [c], h, .refl _⟩
    | error f => exact ⟨rfl, [], h.2, List.nil_sublist _⟩
  · exact ⟨rfl, [], .refl e, List.nil_sublist _⟩

theorem transient_ends (text : String) :
    (d.answer (.transient text)).Ends d e fun r d' e' =>
      ∃ calls, e.After calls e' ∧ Does e d (.transient text) r calls d' := by
  refine Op.Ends.bind (ends_whereShown .cancelTransient _) ?_ ?_
  · intro _ d₁ e₁ h
    obtain ⟨rfl, cs, he₁, hcs⟩ := h
    refine (ends_whereShown .showTransient _).mono ?_
    intro r d₂ e₂ h
    obtain ⟨rfl, ds, he₂, hds⟩ := h
    exact ⟨_, he₁.trans he₂, .transient (hcs.append hds)⟩
  · intro f d₁ e₁ h
    obtain ⟨rfl, cs, he₁, hcs⟩ := h
    exact ⟨cs, he₁, .transient (hcs.trans (List.singleton_sublist.2 (List.mem_cons_self)))⟩

theorem clearBlocked_ends (given : Datum) :
    (d.answer (.clearBlocked given)).Ends d e fun r d' e' =>
      ∃ calls, e.After calls e' ∧ Does e d (.clearBlocked given) r calls d' := by
  refine ends_onHistory ?_
  cases hmask : Mask.ofDatum given with
  | error cause =>
    rw [Blocked.clear_of_refused hmask]
    exact ⟨[], .refl e, .refused hmask⟩
  | ok mask =>
    rw [Blocked.clear_of_mask hmask]
    refine (Blocked.clearEach_ends mask.media).mono fun r h e' hcleared => ?_
    obtain ⟨calls, he, hcleared⟩ := hcleared
    exact ⟨calls, he, .cleared hmask hcleared⟩

/-- What a desk does at a request, whatever the host makes of the calls. -/
theorem perform_ends (request : Request) :
    (perform request).Ends d e fun r d' e' =>
      ∃ calls, e.After calls e' ∧ Does e d request r calls d' := by
  refine Op.ends_own ?_
  cases request with
  | blocked m number time matched => exact blocked_ends m number time matched
  | clearBlocked given => exact clearBlocked_ends given
  | updateVoicemail line visible sound =>
    exact ends_onVoicemail (updateVoicemail_ends rfl line visible sound)
  | refreshVoicemail line => exact refreshVoicemail_ends line
  | updateForwarding line visible =>
    refine ends_onForwarding ((Forwarding.update_ends line visible).mono ?_)
    intro r v' e' h
    obtain ⟨rfl, calls, he, h⟩ := h
    cases visible with
    | true => exact ⟨calls, he, .forwardingShown h⟩
    | false => exact ⟨calls, he, .forwardingHidden h⟩
  | updateService service =>
    refine ends_onOperator ((Operator.update_ends service).mono ?_)
    intro r shown e' h
    obtain ⟨calls, he, h⟩ := h
    exact ⟨calls, he, .followed h⟩
  | showRoaming =>
    refine Roaming.announce_ends.mono ?_
    intro r d' e' h
    obtain ⟨rfl, calls, he, h⟩ := h
    exact ⟨calls, he, .roamingShown h⟩
  | hideRoaming =>
    refine Roaming.withdraw_ends.mono ?_
    intro r d' e' h
    obtain ⟨rfl, calls, he, h⟩ := h
    exact ⟨calls, he, .roamingHidden h⟩
  | transient text => exact transient_ends text

theorem settings_of_does {request : Request} {r : Except Failure Unit} {calls : List ShellCall}
    {d' : Desk} (does : Does e d request r calls d') : d'.settings = d.settings := by
  induction does with
  | refreshed _ _ ih => exact ih
  | _ => rfl

theorem wording_of_does {request : Request} {r : Except Failure Unit} {calls : List ShellCall}
    {d' : Desk} (does : Does e d request r calls d') : d'.wording = d.wording := by
  induction does with
  | refreshed _ _ ih => exact ih
  | _ => rfl

theorem voiceCapable_of_does {request : Request} {r : Except Failure Unit}
    {calls : List ShellCall} {d' : Desk} (does : Does e d request r calls d') :
    d'.voiceCapable = d.voiceCapable := by
  induction does with
  | refreshed _ _ ih => exact ih
  | _ => rfl

/-! ## 6. Where a request shows alerts -/

/-- The one address at which a request may show an alert. -/
def addressOf (d : Desk) : Request → Option Address
  | .blocked m _ _ _ => some { topic := m.topic }
  | .updateVoicemail line _ _ => some ⟨.voicemail, some line⟩
  | .refreshVoicemail line => some ⟨.voicemail, some (d.voicemail.meant noLine line)⟩
  | .updateForwarding line _ => some ⟨.callForward, some line⟩
  | .updateService _ => some Operator.address
  | .showRoaming => some Roaming.address
  | .clearBlocked _ | .hideRoaming | .transient _ => none

variable {d' : Desk} {a b : Address} {alert : Alert} {user : Int} {o : Bool}
  {r : Except Failure Unit} {calls : List ShellCall}

theorem address_of_part {dev : Device} {alert' : Alert}
    (part : calls <+: Delivery.toldOn dev a alert' o) (h : .present b alert user ∈ calls) :
    b = a := by
  obtain ⟨p, -, -, hp⟩ := Delivery.mem_told (part.subset h)
  cases hp
  rfl

theorem address_of_shown {dev : Device} {made : Except RenderError Alert}
    (shown : Delivery.Shown dev a o made r calls) (h : .present b alert user ∈ calls) :
    b = a := by
  unfold Delivery.Shown at shown
  cases made with
  | error cause =>
    rw [shown.2] at h
    cases h
  | ok _ =>
    rcases shown with rfl | ⟨-, part⟩
    · exact address_of_part (List.prefix_refl _) h
    · exact address_of_part part h

theorem address_of_followed {dev : Device} {w : Wording} {service : Service} {shown shown' : Bool}
    (followed : Operator.Followed dev w service shown r calls shown')
    (h : .present b alert user ∈ calls) : b = Operator.address := by
  cases followed with
  | idle _ => cases h
  | raised _ _ => exact address_of_part (List.prefix_refl _) h
  | brokenOff _ _ part _ => exact address_of_part part h
  | lowered _ => simp at h

theorem not_present_of_cancelled (cancelled : Delivery.Cancelled e a r calls) :
    .present b alert user ∉ calls := by
  rcases cancelled with rfl | ⟨rfl, -⟩ <;> simp

theorem not_present_of_cleared {ms : List Medium} {h h' : History}
    (cleared : Blocked.Cleared e ms h r calls h') : .present b alert user ∉ calls := by
  induction cleared with
  | done _ => simp
  | next _ ih => simpa using ih
  | unrecorded _ _ _ _ => simp
  | uncancelled _ => simp

-- Every alert that a request shows is shown at the address of the request.
theorem addressOf_of_does {request : Request} (does : Does e d request r calls d')
    (h : .present b alert user ∈ calls) : d.addressOf request = some b := by
  induction does with
  | untold _ => cases h
  | told _ shown => rw [address_of_shown shown h, addressOf]
  | cleared _ cleared => exact absurd h (not_present_of_cleared cleared)
  | refused _ => cases h
  | incapable _ => cases h
  | voicemailShown _ announced =>
    rcases announced with rfl | ⟨phone, info, -, -, -, shown⟩
    · cases h
    · rw [address_of_shown shown h, addressOf]
  | voicemailHidden _ cancelled => exact absurd h (not_present_of_cancelled cancelled)
  | unrefreshed _ => cases h
  | refreshed _ _ ih => exact ih h
  | forwardingShown announced =>
    rcases announced with rfl | ⟨info, -, shown⟩
    · cases h
    · rw [address_of_shown shown h, addressOf]
  | forwardingHidden cancelled => exact absurd h (not_present_of_cancelled cancelled)
  | followed followed => rw [address_of_followed followed h, addressOf]
  | roamingShown shown => rw [address_of_shown shown h, addressOf]
  | roamingHidden cancelled => exact absurd h (not_present_of_cancelled cancelled)
  | transient part => exact absurd (part.subset h) (by simp)

end Desk

end TelephonyAlerts
