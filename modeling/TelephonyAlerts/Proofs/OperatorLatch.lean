import TelephonyAlerts.Proofs.Screen

/-!
# The latch of the operator alert

The alert that the chosen operator is unavailable is cancelled only while the latch is closed,
and the latch closes after the last user was shown the alert.  A showing that fails after some
users and before the last one leaves the alert before the first of them with the latch open, and
nothing cancels it when service is back.  That is the only way for an alert to outlive its latch.
-/

namespace TelephonyAlerts

namespace Delivery

/-- The users that calls show the alert at an address to, in order. -/
def shownTo (a : Address) (calls : List ShellCall) : List Int :=
  calls.filterMap fun
    | .present b _ user => if b = a then some user else none
    | _ => none

theorem shownTo_present {a : Address} {alert : Alert} {user : Int} {calls : List ShellCall} :
    shownTo a (.present a alert user :: calls) = user :: shownTo a calls := by
  simp [shownTo]

theorem mem_shownTo {a : Address} {user : Int} {calls : List ShellCall} :
    user ∈ shownTo a calls ↔ ∃ alert, .present a alert user ∈ calls := by
  unfold shownTo
  rw [List.mem_filterMap]
  constructor
  · intro h
    obtain ⟨c, hc, h⟩ := h
    cases c with
    | present b alert other =>
      simp only [Option.ite_none_right_eq_some, Option.some.injEq] at h
      obtain ⟨rfl, rfl⟩ := h
      exact ⟨alert, hc⟩
    | cancel _ _ => cases h
    | showTransient _ => cases h
    | cancelTransient => cases h
  · intro h
    obtain ⟨alert, h⟩ := h
    exact ⟨_, h, if_pos rfl⟩

theorem shownTo_told (a : Address) (alert : Alert) (o : Bool) (ps : List Profile) :
    shownTo a (told a alert o ps) = (ps.filter a.topic.audience.admits).map (·.handle) := by
  unfold told
  induction ps.filter a.topic.audience.admits with
  | nil => rfl
  | cons p rest ih => rw [List.map_cons, shownTo_present, ih, List.map_cons]

theorem shownTo_toldOn (d : Device) (a : Address) (alert : Alert) (o : Bool) :
    shownTo a (toldOn d a alert o) = users d a :=
  shownTo_told a _ o d.profiles

-- A part of a showing that reaches everybody is the whole of it.
theorem eq_toldOn_of_shownTo {d : Device} {a : Address} {alert : Alert} {o : Bool}
    {calls : List ShellCall} (part : calls <+: toldOn d a alert o)
    (h : shownTo a calls = users d a) : calls = toldOn d a alert o := by
  obtain ⟨rest, hrest⟩ := part
  have hall : shownTo a calls ++ shownTo a rest = users d a := by
    rw [← shownTo_toldOn d a alert o, ← hrest, shownTo, shownTo, shownTo, List.filterMap_append]
  rw [h, List.append_right_eq_self] at hall
  -- any call that is left would show the alert to one more user
  cases rest with
  | nil => rw [← hrest, List.append_nil]
  | cons c rest =>
    have hc : c ∈ toldOn d a alert o := by
      rw [← hrest]
      exact List.mem_append_right _ List.mem_cons_self
    obtain ⟨p, -, -, rfl⟩ := mem_told hc
    rw [shownTo_present] at hall
    cases hall

end Delivery

/-! ## Truthful latches -/

namespace Desk

variable {d d' : Desk} {e : Session} {screen : Screen} {request : Request}
  {r : Except Failure Unit} {calls : List ShellCall}

/-- An open latch means that nobody has the alert before them. -/
def Truthful (d : Desk) (screen : Screen) : Prop :=
  d.operatorShown = false → ¬ screen.Shows Operator.address

/-- The calls show the alert to some of the users of a device that it is for, and not to all. -/
def CutShort (device : Device) (calls : List ShellCall) : Prop :=
  Delivery.shownTo Operator.address calls ≠ [] ∧
    Delivery.shownTo Operator.address calls ≠ Delivery.users device Operator.address

theorem updateService_of_addressOf (h : d.addressOf request = some Operator.address) :
    ∃ service, request = .updateService service := by
  cases request with
  | updateService service => exact ⟨service, rfl⟩
  | blocked m => cases m <;> simp [addressOf, Operator.address, Medium.topic] at h
  | _ => simp [addressOf, Operator.address, Roaming.address] at h

instance (device : Device) (calls : List ShellCall) : Decidable (CutShort device calls) :=
  inferInstanceAs (Decidable (_ ∧ _))

/-- Only a service update touches the latch or shows the alert. -/
theorem latch_of_does (does : Does e d request r calls d') :
    (∃ service, request = .updateService service ∧
      Operator.Followed e.device d.wording service d.operatorShown r calls d'.operatorShown) ∨
    d'.operatorShown = d.operatorShown ∧ Delivery.shownTo Operator.address calls = [] := by
  have elsewhere (h : ∀ service, request ≠ .updateService service) :
      Delivery.shownTo Operator.address calls = [] := by
    refine List.eq_nil_iff_forall_not_mem.2 fun user huser => ?_
    obtain ⟨alert, halert⟩ := Delivery.mem_shownTo.1 huser
    obtain ⟨service, hservice⟩ := updateService_of_addressOf (addressOf_of_does does halert)
    exact h service hservice
  cases does with
  | @followed service _ _ _ followed => exact Or.inl ⟨service, rfl, followed⟩
  | refreshed _ again =>
    refine Or.inr ⟨?_, elsewhere fun _ h => by cases h⟩
    cases again <;> rfl
  | _ => exact Or.inr ⟨rfl, elsewhere fun _ h => by cases h⟩

theorem shows_of_shownTo_nil {a : Address} (hnobody : Delivery.shownTo a calls = [])
    (shows : (screen.replay calls).Shows a) : screen.Shows a := by
  rcases Screen.shows_of_replay shows with shows | ⟨alert, user, h⟩
  · exact shows
  · have huser : user ∈ Delivery.shownTo a calls := Delivery.mem_shownTo.2 ⟨alert, h⟩
    rw [hnobody] at huser
    cases huser

theorem shows_of_told {a : Address}
    (told : ∀ c ∈ calls, ∃ alert user, c = .present a alert user)
    (h : calls ≠ [] ∨ screen.Shows a) : (screen.replay calls).Shows a := by
  induction calls generalizing screen with
  | nil => exact h.resolve_left fun hne => hne rfl
  | cons c rest ih =>
    obtain ⟨alert, user, rfl⟩ := told c List.mem_cons_self
    exact ih (fun c hc => told c (List.mem_cons_of_mem _ hc))
      (Or.inr (Screen.shows_present.2 (Or.inl rfl)))

-- A showing that was cut short leaves the latch open over a shown alert.
theorem stale_of_cutShort (does : Does e d request r calls d') (cut : CutShort e.device calls) :
    d'.operatorShown = false ∧ (screen.replay calls).Shows Operator.address := by
  obtain ⟨hsome, hnot_all⟩ := cut
  rcases latch_of_does does with ⟨service, -, followed⟩ | ⟨-, hnobody⟩
  · generalize d.operatorShown = shown at followed
    generalize hshown' : d'.operatorShown = shown' at followed
    cases followed with
    | idle _ => exact absurd rfl hsome
    | raised _ _ => exact absurd (Delivery.shownTo_toldOn _ _ _ _) hnot_all
    | brokenOff _ _ part _ =>
      -- the calls that were made show the alert, and none takes it away again
      refine ⟨rfl, shows_of_told (fun c hc => ?_) (Or.inl ?_)⟩
      · obtain ⟨p, -, -, rfl⟩ := Delivery.mem_told (part.subset hc)
        exact ⟨_, _, rfl⟩
      · intro hnil
        rw [hnil] at hsome
        exact hsome rfl
    | lowered _ => exact absurd rfl hsome
  · exact absurd hnobody hsome

/-- Where no showing was cut short, a truthful latch stays truthful. -/
theorem Truthful.does (hd : d.Truthful screen) (does : Does e d request r calls d')
    (whole : ¬ CutShort e.device calls) : d'.Truthful (screen.replay calls) := by
  intro hopen shows
  rcases latch_of_does does with ⟨service, -, followed⟩ | ⟨hlatch, hnobody⟩
  · rw [hopen] at followed
    generalize hshown : d.operatorShown = shown at followed
    cases followed with
    | idle _ => exact hd hshown shows
    | brokenOff _ _ part some_left =>
      by_cases hnobody : Delivery.shownTo Operator.address calls = []
      · exact hd hshown (shows_of_shownTo_nil hnobody shows)
      · -- had the alert reached everybody, the showing would have been whole and not failed
        refine whole ⟨hnobody, fun hall => hnobody ?_⟩
        rw [some_left (Delivery.eq_toldOn_of_shownTo part hall)]
        rfl
    | lowered _ => exact (Screen.shows_cancel.1 shows).1 rfl
  · exact hd (hlatch.symm.trans hopen) (shows_of_shownTo_nil hnobody shows)

-- An answered update in service cancels the alert if the latch is closed, and else leaves the
-- screen as it is.
theorem shows_of_inService (does : Does e d (.updateService .inService) (.ok ()) calls d')
    (watched : Operator.Watched e.device) :
    (screen.replay calls).Shows Operator.address ↔
      d.operatorShown = false ∧ screen.Shows Operator.address := by
  have ended : ¬ Operator.Due e.device .inService := fun due => by cases due.1
  cases does with
  | followed followed =>
    generalize d.operatorShown = shown at followed ⊢
    cases followed with
    | idle settled =>
      have hopen := Bool.eq_false_iff.2 fun h => ended ((settled rfl watched).1 h)
      exact ⟨fun shows => ⟨hopen, shows⟩, fun h => h.2⟩
    | raised due _ => exact absurd due ended
    | lowered _ =>
      exact ⟨fun shows => absurd rfl (Screen.shows_cancel.1 shows).1, fun h => by cases h.1⟩

variable {s : Step} {report : Report Unit} {e' : Session}

theorem Truthful.takes (hd : d.Truthful screen) (takes : Takes d e s report d' e')
    (whole : ¬ CutShort e.device report.journal.calls) :
    d'.Truthful (screen.replay report.journal.calls) := by
  cases takes with
  | request _ does => exact hd.does does whole
  | settings c => exact hd
  | host c => exact hd

theorem stale_of_takes (takes : Takes d e s report d' e')
    (cut : CutShort e.device report.journal.calls) :
    d'.operatorShown = false ∧ (screen.replay report.journal.calls).Shows Operator.address := by
  cases takes with
  | request _ does => exact stale_of_cutShort does cut
  | settings c => exact absurd rfl cut.1
  | host c => exact absurd rfl cut.1

/-! ## Runs -/

variable {state : Desk × Session} {steps past : List Step}

/-- A step of a run cuts a showing of the alert short. -/
def CutShortAfter (past : List Step) (s : Step) (state : Desk × Session) : Prop :=
  CutShort (run past state).2.2.device (s.op.report (run past state).2).1.journal.calls

instance (past : List Step) (s : Step) (state : Desk × Session) :
    Decidable (CutShortAfter past s state) :=
  inferInstanceAs (Decidable (CutShort _ _))

def TruthfulAfter (past : List Step) (state : Desk × Session) : Prop :=
  (run past state).2.1.Truthful (displayed (run past state).1)

theorem truthfulAfter_nil : TruthfulAfter [] state := by
  intro _ shows
  obtain ⟨user, h⟩ := shows
  cases h

theorem truthfulAfter_snoc (h : TruthfulAfter past state) (whole : ¬ CutShortAfter past s state) :
    TruthfulAfter (past ++ [s]) state := by
  unfold TruthfulAfter
  rw [run_snoc, displayed_snoc]
  exact Truthful.takes h (takes _ _ s) whole

theorem not_truthfulAfter_snoc (cut : CutShortAfter past s state) :
    ¬ TruthfulAfter (past ++ [s]) state := by
  unfold TruthfulAfter
  rw [run_snoc, displayed_snoc]
  intro truthful
  obtain ⟨hopen, shows⟩ := stale_of_takes (takes _ _ s) cut
  exact truthful hopen shows

theorem truthfulAfter_of_whole
    (whole : ∀ past s, past ++ [s] <+: steps → ¬ CutShortAfter past s state)
    (hpast : past <+: steps) : TruthfulAfter past state := by
  -- on the past from its end: the last step starts where the steps before it ended
  induction past using List.reverseRecOn with
  | nil => exact truthfulAfter_nil
  | append_singleton past s ih =>
    exact truthfulAfter_snoc (ih ((List.prefix_append past [s]).trans hpast)) (whole past s hpast)

/-- The latch is truthful all along a run exactly where no step of it cuts a showing of the alert
short.  After any run, an update in service that succeeds leaves the alert before somebody exactly
where the latch was open although it was shown, so before nobody if no showing was cut short.

A desk that is asked for nothing but service updates is the alert with its latch alone. -/
theorem latch_truthful_iff (d : Desk) (e : Session) (steps : List Step) :
    ((∀ past, past <+: steps → TruthfulAfter past (d, e)) ↔
      ∀ past s, past ++ [s] <+: steps → ¬ CutShortAfter past s (d, e)) ∧
    let after := run steps (d, e)
    let answer := ((perform (.updateService .inService)).report after.2).1
    answer.result = .ok () → after.2.2.device.choosesOperator = true →
      0 ≤ after.2.2.device.defaultLine →
      ((displayed (after.1 ++ [answer])).Shows Operator.address ↔
        after.2.1.operatorShown = false ∧ (displayed after.1).Shows Operator.address) ∧
      ((∀ past s, past ++ [s] <+: steps → ¬ CutShortAfter past s (d, e)) →
        ¬ (displayed (after.1 ++ [answer])).Shows Operator.address) := by
  refine ⟨⟨?_, fun whole past hpast => truthfulAfter_of_whole whole hpast⟩, ?_⟩
  · -- the past that ends with the step that cuts short is not truthful
    intro truthful past s hprefix cut
    exact not_truthfulAfter_snoc cut (truthful _ hprefix)
  · intro after answer hok hchooses hline
    have does := report_does (.updateService .inService) after.2
    rw [hok] at does
    have hshows : ((displayed after.1).replay answer.journal.calls).Shows Operator.address ↔ _ :=
      shows_of_inService does ⟨hchooses, hline⟩
    rw [displayed_snoc]
    refine ⟨hshows, fun whole shows => ?_⟩
    obtain ⟨hopen, shows⟩ := hshows.1 shows
    exact truthfulAfter_of_whole whole (List.prefix_refl _) hopen shows

/-- The alert reaches the first of two users, and then the host recovers. -/
def brokenRaise : List Step :=
  [.host (.fault .present ⟨1, .collaborator .present⟩), .request (.updateService .outOfService),
    .host .noFaults]

/-- The alert reaches both users. -/
def wholeRaise : List Step := [.request (.updateService .outOfService)]

theorem wholeRaise_whole (past : List Step) (s : Step) (h : past ++ [s] <+: wholeRaise) :
    ¬ CutShortAfter past s (fresh, { device := twoUsers }) := by
  obtain ⟨rest, hrest⟩ := h
  rw [wholeRaise, List.append_assoc] at hrest
  cases past with
  | nil =>
    obtain ⟨rfl, -⟩ := List.cons.inj hrest
    decide +kernel
  | cons _ _ => simp at hrest

theorem latch_truthful_iff_broken :
    let state : Desk × Session := (fresh, { device := twoUsers })
    let answered (steps : List Step) :=
      ((perform (.updateService .inService)).report (run steps state).2).1
    let left (steps : List Step) := displayed ((run steps state).1 ++ [answered steps])
    (¬ ∀ past, past <+: brokenRaise → TruthfulAfter past state) ∧
      (answered brokenRaise).result = .ok () ∧ (left brokenRaise).Shows Operator.address ∧
      (∀ past, past <+: wholeRaise → TruthfulAfter past state) ∧
      (answered wholeRaise).result = .ok () ∧ ¬ (left wholeRaise).Shows Operator.address := by
  intro state answered left
  obtain ⟨hbroken, hstale⟩ := latch_truthful_iff fresh { device := twoUsers } brokenRaise
  obtain ⟨hwhole, hcancelled⟩ := latch_truthful_iff fresh { device := twoUsers } wholeRaise
  have cut :
      CutShortAfter (brokenRaise.take 1) (.request (.updateService .outOfService)) state := by
    decide +kernel
  have broken_ok : (answered brokenRaise).result = .ok () := eq_ok_of_isOk (by decide +kernel)
  have whole_ok : (answered wholeRaise).result = .ok () := eq_ok_of_isOk (by decide +kernel)
  have shows : (displayed (run brokenRaise state).1).Shows Operator.address :=
    ⟨0, by decide +kernel⟩
  refine ⟨fun truthful => ?_, broken_ok, ?_, hwhole.2 wholeRaise_whole, whole_ok, ?_⟩
  · exact hbroken.1 truthful _ _ (List.take_prefix 2 brokenRaise) cut
  · exact (hstale broken_ok (by decide +kernel) (by decide +kernel)).1.2
      ⟨by decide +kernel, shows⟩
  · exact (hcancelled whole_ok (by decide +kernel) (by decide +kernel)).2 wholeRaise_whole

end Desk

end TelephonyAlerts
