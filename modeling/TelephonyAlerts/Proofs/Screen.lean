import TelephonyAlerts.Proofs.Run

/-!
# What is on the screen

The calls of a run, replayed, tell which users have which alerts before them.  An indicator or
an alert about what was blocked is before a user only while the desk remembers why.  The desk
writes its own state first and calls the host afterwards, so this holds wherever a request is
broken off, as long as cancelling does not fail.
-/

namespace TelephonyAlerts

/-! ## 1. Replaying calls -/

/-- Which users have which alerts before them. -/
abbrev Screen := List (Address × Int)

namespace Screen

def after (screen : Screen) : ShellCall → Screen
  | .present a _ user => (a, user) :: screen
  | .cancel a user => screen.filter fun shown => shown.1 ≠ a ∨ user ≠ allUsers ∧ shown.2 ≠ user
  | .showTransient _ => screen
  | .cancelTransient => screen

def replay (screen : Screen) (calls : List ShellCall) : Screen := calls.foldl after screen

/-- Some user has the alert at an address before them. -/
def Shows (screen : Screen) (a : Address) : Prop := ∃ user, (a, user) ∈ screen

variable {screen : Screen} {a b : Address}

theorem replay_append (screen : Screen) (cs ds : List ShellCall) :
    screen.replay (cs ++ ds) = (screen.replay cs).replay ds := List.foldl_append

-- A cancellation for all users leaves the alert before nobody.
theorem shows_cancel : (screen.after (.cancel a allUsers)).Shows b ↔ b ≠ a ∧ screen.Shows b := by
  unfold Shows after
  constructor
  · intro h
    obtain ⟨user, h⟩ := h
    rw [List.mem_filter, decide_eq_true_iff] at h
    obtain ⟨h, hne | hne⟩ := h
    · exact ⟨hne, user, h⟩
    · exact absurd rfl hne.1
  · intro h
    obtain ⟨hne, user, h⟩ := h
    exact ⟨user, List.mem_filter.2 ⟨h, decide_eq_true (Or.inl hne)⟩⟩

theorem shows_present {alert : Alert} {user : Int} :
    (screen.after (.present a alert user)).Shows b ↔ b = a ∨ screen.Shows b := by
  unfold Shows after
  constructor
  · intro h
    obtain ⟨other, h⟩ := h
    rcases List.mem_cons.1 h with h | h
    · exact Or.inl (congrArg Prod.fst h)
    · exact Or.inr ⟨other, h⟩
  · intro h
    rcases h with rfl | ⟨other, h⟩
    · exact ⟨user, List.mem_cons_self⟩
    · exact ⟨other, List.mem_cons_of_mem _ h⟩

theorem shows_of_replay {calls : List ShellCall} (h : (screen.replay calls).Shows b) :
    screen.Shows b ∨ ∃ alert user, .present b alert user ∈ calls := by
  induction calls generalizing screen with
  | nil => exact Or.inl h
  | cons c rest ih =>
    rcases ih h with h | ⟨alert, user, h⟩
    · cases c with
      | present a alert user =>
        rcases shows_present.1 h with rfl | h
        · exact Or.inr ⟨alert, user, List.mem_cons_self⟩
        · exact Or.inl h
      | cancel a user =>
        obtain ⟨other, h⟩ := h
        exact Or.inl ⟨other, (List.mem_filter.1 h).1⟩
      | showTransient text => exact Or.inl h
      | cancelTransient => exact Or.inl h
    · exact Or.inr ⟨alert, user, List.mem_cons_of_mem _ h⟩

end Screen

/-- What the calls of some reports leave on the screen. -/
def displayed (reports : List (Report Unit)) : Screen :=
  Screen.replay [] (reports.flatMap (·.journal.calls))

theorem displayed_snoc (reports : List (Report Unit)) (report : Report Unit) :
    displayed (reports ++ [report]) = (displayed reports).replay report.journal.calls := by
  unfold displayed
  rw [List.flatMap_append, Screen.replay_append, List.flatMap_singleton]

/-! ## 2. What the desk remembers -/

namespace Desk

/-- The desk remembers why the alert at an address is shown, if it is about what was blocked or
an indicator. -/
structure Remembers (d : Desk) (a : Address) : Prop where
  blocked : ∀ m : Medium, a = { topic := m.topic } → d.history.events m ≠ []
  voicemail : ∀ line, a = ⟨.voicemail, some line⟩ → d.showsVoicemail line = true
  forwarding : ∀ line, a = ⟨.callForward, some line⟩ → d.showsForwarding line = true

/-- The desk remembers why each alert on the screen is shown. -/
def Accounts (d : Desk) (screen : Screen) : Prop := ∀ a, screen.Shows a → d.Remembers a

/-- A device that cannot place calls has no voicemail on the screen. -/
def Silent (d : Desk) (screen : Screen) : Prop :=
  d.voiceCapable = false → ∀ line, ¬ screen.Shows ⟨.voicemail, some line⟩

variable {d d' : Desk} {e : Session} {screen : Screen} {request : Request} {a : Address}
  {r : Except Failure Unit} {calls : List ShellCall}

theorem accounts_nothing (d : Desk) : d.Accounts [] := by
  intro a h
  obtain ⟨user, h⟩ := h
  exact absurd h List.not_mem_nil

theorem Accounts.moved {screen' : Screen} (hd : d.Accounts screen)
    (moved : ∀ b, screen'.Shows b → some a = some b ∨ screen.Shows b) (now : d'.Remembers a)
    (kept : ∀ b, b ≠ a → d.Remembers b → d'.Remembers b) : d'.Accounts screen' := by
  intro b hb
  by_cases hba : b = a
  · rw [hba]
    exact now
  · rcases moved b hb with h | h
    · exact absurd (Option.some.inj h).symm hba
    · exact kept b hba (hd b h)

theorem calls_of_cancelled {a : Address} (hcancel : e.faults .cancel = none)
    (h : Delivery.Cancelled e a r calls) : calls = [.cancel a allUsers] := by
  rcases h with h | ⟨-, f, -, fault, hfault, -⟩
  · exact h
  · rw [hcancel] at hfault
    cases hfault

theorem Accounts.cancelled (hd : d.Accounts screen) (hcancel : e.faults .cancel = none)
    (cancelled : Delivery.Cancelled e a r calls)
    (kept : ∀ b, b ≠ a → d.Remembers b → d'.Remembers b) : d'.Accounts (screen.replay calls) := by
  intro b hb
  rw [calls_of_cancelled hcancel cancelled] at hb
  obtain ⟨hba, hb⟩ := Screen.shows_cancel.1 hb
  exact kept b hba (hd b hb)

theorem remembers_history {h : History} (hd : d.Remembers a)
    (hkept : ∀ m : Medium, a = { topic := m.topic } → h.events m = d.history.events m) :
    { d with history := h }.Remembers a where
  blocked m ha := by
    show h.events m ≠ []
    rw [hkept m ha]
    exact hd.blocked m ha
  voicemail := hd.voicemail
  forwarding := hd.forwarding

theorem remembers_voicemail {line : Int} {visible : Bool} (hd : d.Remembers a)
    (hkept : a ≠ ⟨.voicemail, some line⟩) :
    { d with voicemail := d.voicemail.insert line visible }.Remembers a where
  blocked := hd.blocked
  voicemail other ha := by
    show Visibility.shows (d.voicemail.insert line visible) other = true
    rw [Visibility.shows_insert, if_neg]
    · exact hd.voicemail other ha
    · intro h
      exact hkept (h ▸ ha)
  forwarding := hd.forwarding

theorem remembers_forwarding {line : Int} {visible : Bool} (hd : d.Remembers a)
    (hkept : a ≠ ⟨.callForward, some line⟩) :
    { d with forwarding := d.forwarding.insert line visible }.Remembers a where
  blocked := hd.blocked
  voicemail := hd.voicemail
  forwarding other ha := by
    show Visibility.shows (d.forwarding.insert line visible) other = true
    rw [Visibility.shows_insert, if_neg]
    · exact hd.forwarding other ha
    · intro h
      exact hkept (h ▸ ha)

-- Nothing is forgotten of a medium whose alert stays.
theorem shows_of_cleared {ms : List Medium} {h h' : History} (hcancel : e.faults .cancel = none)
    (cleared : Blocked.Cleared e ms h r calls h') {a : Address}
    (shows : (screen.replay calls).Shows a) :
    screen.Shows a ∧ ∀ m : Medium, a = { topic := m.topic } → h'.events m = h.events m := by
  induction cleared generalizing screen with
  | done h => exact ⟨shows, fun _ _ => rfl⟩
  | @next m ms h h' r calls rest ih =>
    obtain ⟨shows, hkept⟩ := ih shows
    obtain ⟨hne, shows⟩ := Screen.shows_cancel.1 shows
    refine ⟨shows, fun m' ha => ?_⟩
    rw [hkept m' ha, History.events_clear, if_neg]
    intro hm
    exact hne (hm ▸ ha)
  | unrecorded m ms h f =>
    obtain ⟨hne, shows⟩ := Screen.shows_cancel.1 shows
    refine ⟨shows, fun m' ha => ?_⟩
    rw [History.events_clear, if_neg]
    intro hm
    exact hne (hm ▸ ha)
  | uncancelled hf =>
    -- here the events are forgotten under an alert that stays, but no cancellation fails
    obtain ⟨fault, hfault, -⟩ := hf
    rw [hcancel] at hfault
    cases hfault

theorem address_ne_line {t t' : Topic} {line : Int} : (⟨t, none⟩ : Address) ≠ ⟨t', some line⟩ := by
  intro h
  cases congrArg Address.line h

theorem topic_injective {m m' : Medium}
    (h : ({ topic := m.topic } : Address) = { topic := m'.topic }) : m = m' := by
  cases m <;> cases m' <;> first | rfl | cases h

theorem address_ne_medium {m : Medium} {t : Topic} {line : Option Int} (ht : t.medium? = none) :
    (⟨t, line⟩ : Address) ≠ { topic := m.topic } := by
  intro h
  have h : t = m.topic := congrArg Address.topic h
  rw [h, Medium.medium?_topic] at ht
  cases ht

theorem remembers_push {m : Medium} {event : BlockedEvent} :
    { d with history := d.history.push m event }.Remembers { topic := m.topic } where
  blocked m' h := by
    show (d.history.push m event).events m' ≠ []
    rw [History.events_push, if_pos (topic_injective h)]
    exact List.cons_ne_nil _ _
  voicemail _ h := absurd h address_ne_line
  forwarding _ h := absurd h address_ne_line

theorem remembers_voicemailShown {line : Int} :
    { d with voicemail := d.voicemail.insert line true }.Remembers ⟨.voicemail, some line⟩ where
  blocked _ h := absurd h (address_ne_medium rfl)
  voicemail other h := by
    show Visibility.shows (d.voicemail.insert line true) other = true
    rw [Visibility.shows_insert, if_pos (Option.some.inj (congrArg Address.line h))]
  forwarding _ h := nomatch congrArg Address.topic h

theorem remembers_forwardingShown {line : Int} :
    { d with forwarding := d.forwarding.insert line true }.Remembers ⟨.callForward, some line⟩ where
  blocked _ h := absurd h (address_ne_medium rfl)
  voicemail _ h := nomatch congrArg Address.topic h
  forwarding other h := by
    show Visibility.shows (d.forwarding.insert line true) other = true
    rw [Visibility.shows_insert, if_pos (Option.some.inj (congrArg Address.line h))]

-- Nothing has to be remembered of an alert about the network.
theorem remembers_network {t : Topic} (ht : t.medium? = none) : d.Remembers { topic := t } where
  blocked _ h := absurd h (address_ne_medium ht)
  voicemail _ h := absurd h address_ne_line
  forwarding _ h := absurd h address_ne_line

theorem shows_of_does (does : Does e d request r calls d') {b : Address}
    (h : (screen.replay calls).Shows b) : d.addressOf request = some b ∨ screen.Shows b := by
  rcases Screen.shows_of_replay h with h | ⟨alert, user, h⟩
  · exact Or.inr h
  · exact Or.inl (addressOf_of_does does h)

/-- A request leaves a desk that remembers why what is on the screen is there. -/
theorem Accounts.does (hd : d.Accounts screen) (hcancel : e.faults .cancel = none)
    (does : Does e d request r calls d') : d'.Accounts (screen.replay calls) := by
  have moved : ∀ b, (screen.replay calls).Shows b → d.addressOf request = some b ∨ screen.Shows b :=
    fun _ => shows_of_does does
  -- a request shows and forgets at its own address only, and remembers before it shows
  induction does with
  | untold _ => exact hd
  | told _ _ =>
    refine hd.moved moved remembers_push ?_
    intro b hb hd
    refine remembers_history hd fun m' hm => ?_
    rw [History.events_push, if_neg]
    intro h
    exact hb (h ▸ hm)
  | cleared _ cleared =>
    intro b hb
    obtain ⟨hb, hkept⟩ := shows_of_cleared hcancel cleared hb
    exact remembers_history (hd b hb) hkept
  | refused _ => exact hd
  | incapable _ => exact hd
  | voicemailShown _ _ =>
    exact hd.moved moved remembers_voicemailShown fun b hb hd => remembers_voicemail hd hb
  | voicemailHidden _ cancelled =>
    exact hd.cancelled hcancel cancelled fun b hb hd => remembers_voicemail hd hb
  | unrefreshed _ => exact hd
  | refreshed _ _ ih => exact ih moved
  | forwardingShown _ =>
    exact hd.moved moved remembers_forwardingShown fun b hb hd => remembers_forwarding hd hb
  | forwardingHidden cancelled =>
    exact hd.cancelled hcancel cancelled fun b hb hd => remembers_forwarding hd hb
  | followed _ =>
    exact hd.moved moved (remembers_network rfl)
      fun _ _ hd => ⟨hd.blocked, hd.voicemail, hd.forwarding⟩
  | roamingShown _ => exact hd.moved moved (remembers_network rfl) fun _ _ => id
  | roamingHidden cancelled => exact hd.cancelled hcancel cancelled fun _ _ => id
  | transient _ => exact fun b hb => hd b ((moved b hb).resolve_left nofun)

/-! ## 3. What stays off the screen -/

theorem shows_before_cleared {ms : List Medium} {h h' : History}
    (cleared : Blocked.Cleared e ms h r calls h') (shows : (screen.replay calls).Shows a) :
    screen.Shows a := by
  rcases Screen.shows_of_replay shows with shows | ⟨alert, user, h⟩
  · exact shows
  · exact absurd h (not_present_of_cleared cleared)

-- Clearing that succeeds leaves nothing of its media on the screen.
theorem not_shows_of_cleared {ms : List Medium} {h h' : History}
    (cleared : Blocked.Cleared e ms h (.ok ()) calls h') {m : Medium} (hm : m ∈ ms) :
    ¬ (screen.replay calls).Shows { topic := m.topic } := by
  -- clearing goes on with the same result after each medium, so the result is made a variable
  generalize hr : (.ok () : Except Failure Unit) = r at cleared
  induction cleared generalizing screen with
  | done _ => cases hm
  | next rest ih =>
    rcases List.mem_cons.1 hm with rfl | hm
    · intro shows
      exact (Screen.shows_cancel.1 (shows_before_cleared rest shows)).1 rfl
    · exact ih hm hr
  | unrecorded _ _ _ _ => cases hr
  | uncancelled _ => cases hr

theorem Silent.does (hd : d.Silent screen) (does : Does e d request r calls d') :
    d'.Silent (screen.replay calls) := by
  have moved : ∀ b, (screen.replay calls).Shows b → d.addressOf request = some b ∨ screen.Shows b :=
    fun _ => shows_of_does does
  -- most requests show no voicemail, and none changes whether the device can place calls
  have quiet (h : ∀ line, d.addressOf request ≠ some ⟨.voicemail, some line⟩)
      (hsame : d'.voiceCapable = d.voiceCapable) : d'.Silent (screen.replay calls) :=
    fun incapable line shows =>
      hd (hsame.symm.trans incapable) line ((moved _ shows).resolve_left (h line))
  cases does with
  | incapable _ => exact hd
  | voicemailShown capable _ =>
    exact fun incapable => absurd (capable.symm.trans incapable) (by decide)
  | voicemailHidden capable _ =>
    exact fun incapable => absurd (capable.symm.trans incapable) (by decide)
  | unrefreshed _ => exact hd
  | refreshed _ again =>
    cases again with
    | incapable _ => exact hd
    | voicemailShown capable _ =>
      exact fun incapable => absurd (capable.symm.trans incapable) (by decide)
  | untold _ => exact hd
  | told _ _ => exact quiet (fun _ h => address_ne_line (Option.some.inj h)) rfl
  | cleared _ _ => exact quiet (fun _ => by simp [addressOf]) rfl
  | refused _ => exact hd
  | forwardingShown _ => exact quiet (fun _ => by simp [addressOf]) rfl
  | forwardingHidden _ => exact quiet (fun _ => by simp [addressOf]) rfl
  | followed _ => exact quiet (fun _ h => address_ne_line (Option.some.inj h)) rfl
  | roamingShown _ => exact quiet (fun _ h => address_ne_line (Option.some.inj h)) rfl
  | roamingHidden _ => exact quiet (fun _ => by simp [addressOf]) rfl
  | transient _ => exact quiet (fun _ => by simp [addressOf]) rfl

/-! ## 4. Runs -/

variable {steps : List Step}

theorem run_accounts (hcancel : e.faults .cancel = none)
    (hsteps : ∀ f, .host (.fault .cancel f) ∉ steps) :
    (run steps (d, e)).2.1.Accounts (displayed (run steps (d, e)).1) := by
  -- a cancellation that cannot fail at first cannot fail later: no step makes it fail
  refine (run_induction (I := fun reports d e => d.Accounts (displayed reports) ∧
    e.faults .cancel = none) ⟨accounts_nothing d, hcancel⟩ ?_).1
  intro reports d e s report d' e' hs h htakes
  obtain ⟨hd, hcancel⟩ := h
  rw [displayed_snoc]
  cases htakes with
  | request after does =>
    exact ⟨hd.does (e := e.blank) hcancel does, after.faultless (e := e.blank) hcancel⟩
  | settings c =>
    exact ⟨fun a ha => ⟨(hd a ha).blocked, (hd a ha).voicemail, (hd a ha).forwarding⟩, hcancel⟩
  | host c =>
    exact ⟨hd, Session.faultless_apply (e := e.blank) hcancel fun f hc => hsteps f (hc ▸ hs)⟩

theorem run_silent : (run steps (d, e)).2.1.Silent (displayed (run steps (d, e)).1) := by
  refine run_induction (I := fun reports d _ => d.Silent (displayed reports)) ?_ ?_
  · intro _ line h
    obtain ⟨user, h⟩ := h
    exact absurd h List.not_mem_nil
  · intro reports d e s report d' e' _ hd htakes
    rw [displayed_snoc]
    cases htakes with
    | request after does => exact hd.does does
    | settings c => exact hd
    | host c => exact hd

/-- A request to take the alert at an address away. -/
def Withdraws : Request → Address → Prop
  | .updateVoicemail line false _, a => a = ⟨.voicemail, some line⟩
  | .updateForwarding line false, a => a = ⟨.callForward, some line⟩
  | .clearBlocked given, a =>
    ∃ mask, Mask.ofDatum given = .ok mask ∧ ∃ m ∈ mask.media, a = { topic := m.topic }
  | .hideRoaming, a => a = Roaming.address
  | _, _ => False

theorem not_shows_of_cancelled (cancelled : Delivery.Cancelled e a (.ok ()) calls) :
    ¬ (screen.replay calls).Shows a := by
  rcases cancelled with rfl | ⟨-, f, hf, -⟩
  · exact fun h => (Screen.shows_cancel.1 h).1 rfl
  · cases hf

theorem not_shows_of_does (hd : d.Silent screen) (hw : Withdraws request a)
    (does : Does e d request (.ok ()) calls d') : ¬ (screen.replay calls).Shows a := by
  cases does with
  | cleared selected cleared =>
    obtain ⟨mask, hmask, m, hm, rfl⟩ := hw
    obtain rfl := Except.ok.inj (selected.symm.trans hmask)
    exact not_shows_of_cleared cleared hm
  | @incapable line visible _ _ incapable =>
    cases visible with
    | true => exact absurd hw id
    | false =>
      obtain rfl := hw
      exact hd incapable line
  | voicemailHidden _ cancelled =>
    obtain rfl := hw
    exact not_shows_of_cancelled cancelled
  | forwardingHidden cancelled =>
    obtain rfl := hw
    exact not_shows_of_cancelled cancelled
  | roamingHidden cancelled =>
    obtain rfl := hw
    exact not_shows_of_cancelled cancelled
  | _ => exact absurd hw id

/-- As long as cancelling never fails, the desk remembers after every run why the alerts on the
screen are there, whatever else failed.  After any run at all, a request to take an alert away
that succeeds leaves it before nobody. -/
theorem screen_accounted (d : Desk) (e : Session) (steps : List Step) :
    let after := run steps (d, e)
    let screen := displayed after.1
    (e.faults .cancel = none → (∀ f, .host (.fault .cancel f) ∉ steps) →
      (∀ m : Medium, screen.Shows { topic := m.topic } → after.2.1.history.events m ≠ []) ∧
      (∀ line, screen.Shows ⟨.voicemail, some line⟩ → after.2.1.showsVoicemail line = true) ∧
      ∀ line, screen.Shows ⟨.callForward, some line⟩ → after.2.1.showsForwarding line = true) ∧
    ∀ request a, Withdraws request a → ((perform request).report after.2).1.result = .ok () →
      ¬ (displayed (after.1 ++ [((perform request).report after.2).1])).Shows a := by
  intro after screen
  constructor
  · intro hcancel hsteps
    have accounts := run_accounts (d := d) hcancel hsteps
    exact ⟨fun m h => (accounts _ h).blocked m rfl, fun line h => (accounts _ h).voicemail line rfl,
      fun line h => (accounts _ h).forwarding line rfl⟩
  · intro request a hw hok
    have silent : after.2.1.Silent screen := run_silent
    rw [displayed_snoc]
    have does := report_does request after.2
    rw [hok] at does
    exact not_shows_of_does silent hw does

/-- The second user is never shown the indicator. -/
def brokenForwarding : List Step :=
  [.host (.fault .present ⟨1, .collaborator .present⟩), .request (.updateForwarding 5 true)]

theorem screen_accounted_broken :
    let after := run brokenForwarding (fresh, { device := twoUsers })
    let report := ((perform (.updateForwarding 5 false)).report after.2).1
    ((displayed after.1).Shows ⟨.callForward, some 5⟩ ∧ after.2.1.showsForwarding 5 = true) ∧
      report.result = .ok () ∧
      ¬ (displayed (after.1 ++ [report])).Shows ⟨.callForward, some 5⟩ := by
  intro after report
  have accounted := screen_accounted fresh { device := twoUsers } brokenForwarding
  have shows : (displayed after.1).Shows ⟨.callForward, some 5⟩ := ⟨0, by decide +kernel⟩
  have ok : report.result = .ok () := eq_ok_of_isOk (by decide +kernel)
  refine ⟨⟨shows, ?_⟩, ok, accounted.2 _ _ rfl ok⟩
  exact (accounted.1 rfl (fun f => by simp [brokenForwarding])).2.2 5 shows

end Desk

end TelephonyAlerts
