import TelephonyAlerts.Proofs.Coupling
import TelephonyAlerts.Proofs.IndicatorAlerts
import TelephonyAlerts.Proofs.Visibility

/-!
# Silent refreshes

A refresh of an indicator that is seen does what an update to the same sight does, but that its
alerts make no sound.  The two are run side by side with their calls compared up to sound.  As the
calls of the refresh have no sound to lose, they are those of the update without theirs.
-/

namespace TelephonyAlerts

/-! ## 1. Muting -/

def Alert.muted (a : Alert) : Alert := { a with sound := false }

def ShellCall.muted : ShellCall → ShellCall
  | .present a alert user => .present a alert.muted user
  | c => c

/-- The journal without the sound of its alerts. -/
def Journal.muted (j : Journal) : Journal := { j with calls := j.calls.map ShellCall.muted }

namespace Session

def muted (e : Session) : Session := { e with journal := e.journal.muted }

theorem muted_aside : Aside muted where
  faults _ := rfl
  draws _ := rfl
  sink _ := rfl
  now _ := rfl
  withFaults _ _ := rfl
  withDraws _ _ := rfl
  withSink _ _ := rfl
  withRecord _ _ := rfl

end Session

/-! ## 2. Runs that differ in sound -/

/-- Sessions that differ in sound only. -/
def Coupling.muted : Coupling := ⟨fun e₁ e₂ => e₁.muted = e₂.muted, fun _ => True⟩

namespace Op

variable {σ : Type} {O : σ → σ → Prop}

-- What sees nothing of the sound keeps sessions together that differ in it.
theorem Coupled.muted {α : Type} {op : Op σ α} (act : Session → Except Failure α × Session)
    (hop : ∀ s e, op (s, e) = ((act e).1, s, (act e).2))
    (hact : ∀ e, act e.muted = ((act e).1, (act e).2.muted)) : Coupled .muted O op op := by
  intro s₁ s₂ e₁ e₂ hs he
  have he : e₁.muted = e₂.muted := he
  have hsame : ((act e₁).1, (act e₁).2.muted) = ((act e₂).1, (act e₂).2.muted) := by
    rw [← hact, ← hact, he]
  obtain ⟨hresult, hsession⟩ := Prod.mk.inj hsame
  rw [hop, hop]
  exact ⟨hresult, hs, hsession, fun _ _ => trivial⟩

theorem note_muted {c₁ c₂ : ShellCall} (h : c₁.muted = c₂.muted) :
    Coupled .muted O (note c₁ : Op σ Unit) (note c₂) := by
  intro s₁ s₂ e₁ e₂ hs he
  have he : e₁.muted = e₂.muted := he
  refine ⟨rfl, hs, ?_, fun _ _ => trivial⟩
  have added (e : Session) (c : ShellCall) :
      { e with journal := { e.journal with calls := e.journal.calls ++ [c] } }.muted =
        { e.muted with journal :=
          { e.muted.journal with calls := e.muted.journal.calls ++ [c.muted] } } := by
    show { e with journal := { e.journal with
      calls := (e.journal.calls ++ [c]).map ShellCall.muted } } = _
    rw [List.map_append]
    rfl
  show { e₁ with journal := { e₁.journal with calls := e₁.journal.calls ++ [c₁] } }.muted =
    { e₂ with journal := { e₂.journal with calls := e₂.journal.calls ++ [c₂] } }.muted
  rw [added, added, he, h]

end Op

theorem Coupling.muted_lawful : Coupling.muted.Lawful where
  device {e₁ e₂} he := by
    have he : e₁.muted = e₂.muted := he
    show e₁.muted.device = e₂.muted.device
    rw [he]
  log level source text := .muted (fun e => (.ok (), { e with journal :=
    { e.journal with rows := e.journal.rows ++ [⟨level, source, text⟩] } })) (fun _ _ => rfl)
    fun _ => rfl
  note _ := Op.note_muted rfl
  call {σ O m} _ := .muted (·.call m) (fun _ _ => Op.call_apply _ _)
    fun e => Session.muted_aside.call e m

theorem Coupling.muted_ties (c : Context) : Coupling.muted.Ties c c where
  toLawful := muted_lawful
  record d := .muted (·.record c.sampling d) (fun _ _ => Op.record_apply _ _ _)
    fun e => Session.muted_aside.record e c.sampling d
  covers := .all
  wording := rfl
  renders _ _ _ _ _ := trivial

namespace Delivery

variable {σ : Type} {O : σ → σ → Prop} {a₁ a₂ : Alert}

theorem personal_muted (a : Alert) (o : Bool) (p : Profile) :
    (personal a o p).muted = personal a.muted o p := by
  unfold personal
  split <;> rfl

theorem presentTo_muted (address : Address) (h : a₁.muted = a₂.muted) (o : Bool) :
    ∀ ps : List Profile, Op.Coupled .muted O (presentTo address a₁ o ps : Op σ (List Int))
      (presentTo address a₂ o ps)
  | [] => .pure _
  | p :: rest => by
    have hcall : (ShellCall.present address (personal a₁ o p) p.handle).muted =
        (ShellCall.present address (personal a₂ o p) p.handle).muted := by
      show ShellCall.present _ (personal a₁ o p).muted _ = .present _ (personal a₂ o p).muted _
      rw [personal_muted, personal_muted, h]
    unfold presentTo
    split
    · exact .bind (.bind (Coupling.muted_lawful.call (by decide)) fun _ => Op.note_muted hcall)
        fun _ => .bind (presentTo_muted address h o rest) fun _ => .pure _
    · exact .bind (Coupling.muted_lawful.log _ _ _) fun _ => presentTo_muted address h o rest

theorem present_muted (address : Address) (h : a₁.muted = a₂.muted) (o : Bool) :
    Op.Coupled .muted O (present address a₁ o : Op σ (List Int)) (present address a₂ o) := by
  have haddress : { a₁ with address }.muted = { a₂ with address }.muted :=
    congrArg (fun a : Alert => { a with address }) h
  exact .bind (.profiles Coupling.muted_lawful) fun ps => presentTo_muted address haddress o ps

end Delivery

namespace Voicemail

variable {O : Visibility → Visibility → Prop} {c : Context}

/-- The sound of an alert is the one that was asked for, and nothing else depends on it. -/
theorem alert_sound (w : Wording) (d : Device) (line : Int) (phone : Phone) (info : Line)
    (sound : Bool) : alert w d line phone info sound =
      (alert w d line phone info false).map fun a => { a with sound } := by
  rw [alert_eq, alert_eq]
  cases title w phone with
  | error cause => rfl
  | ok title => cases body w d phone info <;> rfl

theorem sound_of_alert {w : Wording} {d : Device} {line : Int} {phone : Phone} {info : Line}
    {sound : Bool} {a : Alert} (made : alert w d line phone info sound = .ok a) :
    a.sound = sound := by
  rw [alert_eq] at made
  obtain ⟨title, -, made⟩ := bind_eq_ok made
  obtain ⟨body, -, made⟩ := bind_eq_ok made
  rw [← Except.ok.inj made]
  rfl

theorem shown_muted (w : Wording) (d : Device) (line : Int) (phone : Phone) (info : Line)
    (s₁ s₂ : Bool) (address : Address) {k : List Int → Op Visibility Unit}
    (hk : ∀ handles, Op.Coupled .muted O (k handles) (k handles)) :
    Op.Coupled .muted O
      (Op.ofRender (alert w d line phone info s₁) >>= fun a => Delivery.present address a >>= k)
      (Op.ofRender (alert w d line phone info s₂) >>= fun a =>
        Delivery.present address a >>= k) := by
  rw [alert_sound _ _ _ _ _ s₁, alert_sound _ _ _ _ _ s₂]
  cases alert w d line phone info false with
  | error cause => exact fun _ _ _ _ hs he => ⟨rfl, hs, he, fun _ _ => trivial⟩
  | ok a =>
    change Op.Coupled .muted O (Delivery.present address { a with sound := s₁ } >>= k)
      (Delivery.present address { a with sound := s₂ } >>= k)
    have h : { a with sound := s₁ }.muted = { a with sound := s₂ }.muted := rfl
    exact .bind (Delivery.present_muted address h false) hk

theorem announce_muted (line : Int) (s₁ s₂ : Bool) :
    Op.Coupled .muted O (announce c line s₁) (announce c line s₂) := by
  have closing := (Coupling.muted_ties c).closing
  refine .bind (.resolving ?_) fun found => ?_
  · exact .bind (.phone closing.toLawful closing.covers _) fun _ =>
      .bind (.line closing.toLawful closing.covers _) fun _ => .pure _
  · obtain u | ⟨phone, info⟩ := found
    · exact closing.logged _ _ _ (closing.record _)
    · dsimp only
      split
      · exact closing.logged _ _ _ (closing.record _)
      · refine .bind (.device closing.toLawful) fun d => ?_
        exact shown_muted _ d line phone info s₁ s₂ _ fun _ => closing.record _

theorem update_muted (capable : Bool) (line : Int) (s₁ s₂ : Bool)
    (keeps : ∀ v₁ v₂, O v₁ v₂ → O (v₁.insert line true) (v₂.insert line true)) :
    Op.Coupled .muted O (update c capable line true s₁) (update c capable line true s₂) := by
  have closing := (Coupling.muted_ties c).closing
  unfold update
  split
  · exact closing.logged _ _ _ (closing.record _)
  · exact closing.logged _ _ _ (.bind (.modifying keeps) fun _ => announce_muted line s₁ s₂)

end Voicemail

/-! ## 3. Refreshes -/

namespace Desk

variable {d d' : Desk} {e : Session} {line target : Int} {visible : Bool}
  {r : Except Failure Unit} {calls : List ShellCall}

/-- The line that is meant where a line is named: the only line that is remembered, if there is
exactly one and none is named, and else the line itself. -/
def Meant (v : Visibility) (line target : Int) : Prop :=
  line = noLine ∧ v.keys = [target] ∨ target = line ∧ ¬ (line = noLine ∧ ∃ only, v.keys = [only])

theorem meant_of_visibility (v : Visibility) (line : Int) : Meant v line (v.meant noLine line) := by
  match v with
  | [] => exact Or.inr ⟨rfl, fun ⟨_, _, h⟩ => nomatch h⟩
  | [(only, visible)] =>
    have honly : Visibility.meant [(only, visible)] noLine line =
        if line = noLine then only else line := rfl
    rw [honly]
    by_cases h : line = noLine
    · rw [if_pos h]
      exact Or.inl ⟨h, rfl⟩
    · rw [if_neg h]
      exact Or.inr ⟨rfl, fun hnone => h hnone.1⟩
  | (first, _) :: (second, _) :: rest => exact Or.inr ⟨rfl, fun ⟨_, _, h⟩ => nomatch h⟩

theorem desk_of_refresh (does : Does e d (.refreshVoicemail line) r calls d') : d' = d := by
  cases does with
  | unrefreshed _ => rfl
  | refreshed shown again =>
    cases again with
    | incapable _ => rfl
    | voicemailShown _ _ =>
      have hsame : d.voicemail.insert (d.voicemail.meant noLine line) true = d.voicemail :=
        Visibility.insert_of_shows shown
      rw [hsame]

theorem calls_of_incapable {request : Request} (incapable : d.voiceCapable = false)
    (does : Does e d request r calls d')
    (about : (∃ line visible sound, request = .updateVoicemail line visible sound) ∨
      ∃ line, request = .refreshVoicemail line) : calls = [] := by
  have capable {p : Prop} (h : d.voiceCapable = true) : p :=
    absurd (h.symm.trans incapable) nofun
  rcases about with ⟨line, visible, sound, rfl⟩ | ⟨line, rfl⟩
  · cases does with
    | incapable _ => rfl
    | voicemailShown h _ => exact capable h
    | voicemailHidden h _ => exact capable h
  · cases does with
    | unrefreshed _ => rfl
    | refreshed _ again =>
      cases again with
      | incapable _ => rfl
      | voicemailShown h _ => exact capable h

-- An update without sound shows nothing that makes a sound.
theorem muted_of_silent (does : Does e d (.updateVoicemail line visible false) r calls d') :
    calls.map ShellCall.muted = calls := by
  have silent : ∀ c ∈ calls, c.muted = c := by
    intro c hc
    cases c with
    | present b alert user =>
      have made : ∃ phone info original p,
          Voicemail.alert d.wording e.device line phone info false = .ok original ∧ alert =
            Delivery.personal { original with address := ⟨.voicemail, some line⟩ } false p := by
        cases does with
        | incapable _ => cases hc
        | voicemailHidden _ cancelled => exact absurd hc (not_present_of_cancelled cancelled)
        | voicemailShown _ announced =>
          rcases announced with rfl | ⟨phone, info, -, -, -, shown⟩
          · cases hc
          · obtain ⟨-, original, p, made⟩ := shown.alert hc
            exact ⟨phone, info, original, p, made⟩
      obtain ⟨phone, info, original, p, made, rfl⟩ := made
      have hsound := Voicemail.sound_of_alert made
      have hmuted : { original with address := ⟨.voicemail, some line⟩ }.muted =
          { original with address := ⟨.voicemail, some line⟩ } := by
        unfold Alert.muted
        rw [← hsound]
      show ShellCall.present b (Alert.muted _) user = _
      rw [Delivery.personal_muted, hmuted]
    | cancel b user => rfl
    | showTransient text => rfl
    | cancelTransient => rfl
  exact (List.map_congr_left silent).trans (List.map_id _)

theorem update_meets (d : Desk) (e : Session) (line : Int) (s₁ s₂ : Bool) :
    Op.Meet .muted Eq (perform (.updateVoicemail line true s₁) (d, e))
      (perform (.updateVoicemail line true s₂) (d, e)) := by
  have coupled : Op.Coupled .muted Eq
      (onVoicemail (Voicemail.update d.context d.voiceCapable line true s₁))
      (onVoicemail (Voicemail.update d.context d.voiceCapable line true s₂)) :=
    .within (O := Eq) (fun _ _ h => by rw [h]) (fun _ _ _ _ hs h => by rw [hs, h])
      (Voicemail.update_muted _ line s₁ s₂ fun _ _ h => by rw [h])
  exact coupled d d e e rfl rfl

theorem onVoicemail_apply (op : Op Visibility Unit) (d : Desk) (e : Session) :
    onVoicemail op (d, e) = ((op (d.voicemail, e)).1,
      { d with voicemail := (op (d.voicemail, e)).2.1 }, (op (d.voicemail, e)).2.2) := rfl

theorem refresh_of_shown (shown : d.showsVoicemail (d.voicemail.meant noLine line) = true) :
    (perform (.refreshVoicemail line)).report (d, e) =
      (perform (.updateVoicemail (d.voicemail.meant noLine line) true false)).report (d, e) := by
  have hrefresh : Voicemail.refresh d.context d.voiceCapable line (d.voicemail, e.blank) =
      Voicemail.update d.context d.voiceCapable (d.voicemail.meant noLine line) true false
        (d.voicemail, e.blank) := by
    have shown : d.voicemail.shows (d.voicemail.meant noLine line) = true := shown
    unfold Voicemail.refresh
    rw [Op.bind_apply, Op.own_apply]
    dsimp only
    rw [if_pos shown]
  have hperform : perform (.refreshVoicemail line) (d, e.blank) =
      perform (.updateVoicemail (d.voicemail.meant noLine line) true false) (d, e.blank) := by
    show (onVoicemail (Voicemail.refresh d.context d.voiceCapable line)) (d, e.blank) = _
    rw [onVoicemail_apply, hrefresh]
    rfl
  rw [Op.report_apply, Op.report_apply, hperform]

-- Where the line is not to be seen, a log row is all that a refresh leaves.
theorem refresh_of_hidden (hidden : d.showsVoicemail (d.voicemail.meant noLine line) = false) :
    let refreshed := (perform (.refreshVoicemail line)).report (d, e)
    refreshed.1.result = .ok () ∧ refreshed.1.journal.calls = [] ∧
      refreshed.1.journal.records = [] ∧ refreshed.2.2.sink = e.sink := by
  have hidden : ¬ d.voicemail.shows (d.voicemail.meant noLine line) = true :=
    Bool.eq_false_iff.1 hidden
  have hperform : perform (.refreshVoicemail line) (d, e.blank) =
      onVoicemail (Voicemail.log .debug (d.voicemail.meant noLine line)
        "Refresh skipped, indicator not visible") (d, e.blank) := by
    show (onVoicemail (Voicemail.refresh d.context d.voiceCapable line)) (d, e.blank) = _
    unfold Voicemail.refresh
    rw [onVoicemail_apply, Op.bind_apply, Op.own_apply]
    dsimp only
    rw [if_neg hidden]
    rfl
  intro refreshed
  have hrefreshed : refreshed = _ := Op.report_apply _ _ _
  rw [hrefreshed, hperform]
  exact ⟨rfl, rfl, rfl, rfl⟩

/-- What a refresh of the voicemail indicator of a line does: it changes nothing at the desk, and
where the line is to be seen it is an update without sound. -/
structure Refreshes (d : Desk) (e : Session) (line target : Int) : Prop where
  desk : ((perform (.refreshVoicemail line)).report (d, e)).2.1 = d
  hidden : d.showsVoicemail target = false →
    let refreshed := (perform (.refreshVoicemail line)).report (d, e)
    refreshed.1.result = .ok () ∧ refreshed.1.journal.calls = [] ∧
      refreshed.1.journal.records = [] ∧ refreshed.2.2.sink = e.sink
  shown : d.showsVoicemail target = true →
    let refreshed := (perform (.refreshVoicemail line)).report (d, e)
    let audible := (perform (.updateVoicemail target true true)).report (d, e)
    refreshed.1 = ⟨audible.1.result, audible.1.journal.muted⟩

theorem refreshes (d : Desk) (e : Session) (line : Int) :
    Refreshes d e line (d.voicemail.meant noLine line) where
  desk := desk_of_refresh (report_does (.refreshVoicemail line) (d, e))
  hidden := refresh_of_hidden
  shown shown := by
    intro refreshed audible
    let target := d.voicemail.meant noLine line
    let silent := (perform (.updateVoicemail target true false)).report (d, e)
    have meets : Op.Meet .muted Eq (perform (.updateVoicemail target true false) (d, e.blank))
        (perform (.updateVoicemail target true true) (d, e.blank)) := update_meets d e.blank _ _ _
    have hsession : silent.2.2.muted = audible.2.2.muted := meets.session
    have hjournal : silent.1.journal.muted = audible.1.journal.muted :=
      congrArg Session.journal hsession
    have hsilent : silent.1.journal.muted = silent.1.journal := by
      have hcalls : silent.1.journal.calls.map ShellCall.muted = silent.1.journal.calls :=
        muted_of_silent (report_does (.updateVoicemail target true false) (d, e))
      unfold Journal.muted
      rw [hcalls]
    have hrefreshed : refreshed.1 = silent.1 := congrArg Prod.fst (refresh_of_shown shown)
    have hresult : silent.1.result = audible.1.result := meets.result
    rw [hrefreshed, ← hjournal, hsilent, ← hresult]

/-- At a desk that was just made and after every run, whatever fails in it: the forwarding
indicators, and on a device that can place calls the voicemail indicators, are remembered as they
were last asked for.  A device that cannot place calls remembers no voicemail indicators and shows
none.  A refresh leaves all that as it is; it does nothing at the host for a line that is not to be
seen, and for one that is what an update would do, without sound. -/
theorem visibility_kept {s : Settings} {d : Desk} (made : ofSettings s = .ok d) (e : Session)
    (steps : List Step) :
    let after := (run steps (d, e)).2.1
    after.forwarding.Follows (steps.filterMap Step.forwarding?) ∧
    (d.voiceCapable = true → after.voicemail.Follows (steps.filterMap Step.voicemail?)) ∧
    (d.voiceCapable = false → after.voicemail = [] ∧ ∀ host line visible sound,
      ((perform (.updateVoicemail line visible sound)).report (after, host)).1.journal.calls = [] ∧
      ((perform (.refreshVoicemail line)).report (after, host)).1.journal.calls = []) ∧
    ∀ host line, ∃ target, Meant after.voicemail line target ∧
      Refreshes after host line target := by
  have hnew := nothing_of_ofSettings made
  intro after
  refine ⟨?_, fun capable => ?_, fun incapable => ?_, fun host line => ?_⟩
  · rw [show after.forwarding = _ from forwarding_of_run hnew.2]
    exact Visibility.follows_ofPairs _
  · rw [show after.voicemail = _ from voicemail_of_run hnew.1 capable]
    exact Visibility.follows_ofPairs _
  · have hafter : after.voiceCapable = false := (run_voiceCapable steps d e).trans incapable
    refine ⟨voicemail_of_incapable_run hnew.1 incapable, fun host line visible sound => ⟨?_, ?_⟩⟩
    · exact calls_of_incapable hafter (report_does _ (after, host)) (Or.inl ⟨_, _, _, rfl⟩)
    · exact calls_of_incapable hafter (report_does _ (after, host)) (Or.inr ⟨_, rfl⟩)
  · exact ⟨_, meant_of_visibility _ line, refreshes after host line⟩

/-- The directory fails when an indicator is first shown; another is shown and hidden. -/
def stumbling : List Step :=
  [.host (.fault .line ⟨0, .collaborator .line⟩), .request (.updateVoicemail 7 true),
    .host .noFaults, .request (.updateForwarding 5 true), .request (.updateForwarding 5 false)]

theorem visibility_kept_stumbling :
    let run := run stumbling (fresh, { device := twoLines })
    let after := run.2.1
    let refreshed := (perform (.refreshVoicemail noLine)).report run.2
    let audible := (perform (.updateVoicemail 7 true true)).report run.2
    ofSettings {} = .ok fresh ∧ run.1.map (·.result.isOk) = [true, false, true, true, true] ∧
      after.showsVoicemail 7 = true ∧ after.showsForwarding 5 = false ∧
      5 ∈ after.forwarding.keys ∧ refreshed.2.1 = after ∧
      refreshed.1 = ⟨audible.1.result, audible.1.journal.muted⟩ ∧
      refreshed.1.journal.calls.length = 2 := by
  intro run after refreshed audible
  have made : ofSettings {} = .ok fresh := by decide +kernel
  obtain ⟨forwarding, voicemail, -, refreshes⟩ :=
    visibility_kept made { device := twoLines } stumbling
  have shows : after.showsVoicemail 7 = true := ((voicemail rfl).shows 7).trans (by decide)
  obtain ⟨target, meant, refreshes⟩ := refreshes run.2.2 noLine
  have hkeys : after.voicemail.keys = [7] := by decide +kernel
  obtain rfl : target = 7 := by
    rcases meant with ⟨-, h⟩ | ⟨-, h⟩
    · exact (List.singleton_inj.1 (h.symm.trans hkeys))
    · exact absurd ⟨rfl, 7, hkeys⟩ h
  exact ⟨made, by decide +kernel, shows, (forwarding.shows 5).trans (by decide),
    (forwarding.keys 5).2 ⟨true, by decide⟩, refreshes.desk, refreshes.shown shows,
    by decide +kernel⟩

end Desk

end TelephonyAlerts
