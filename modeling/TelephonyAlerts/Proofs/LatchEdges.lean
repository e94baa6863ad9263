import TelephonyAlerts.Proofs.Soundness

/-!
# The edges of the latch

As long as nothing fails, the latch of the alert about the operator follows the service state and
the operator that is chosen, however both change.  The host is called only where the latch turns,
so the alert is shown and cancelled in turns, and an update that tells nothing new makes no calls.
-/

namespace TelephonyAlerts

open TelephonyAlerts.Template

/-- A failure to make a text: that of an alert or that of a key. -/
def Failure.IsTextual (f : Failure) : Prop :=
  (∃ cause, f = .render cause) ∨ ∃ cause, f = .unwritable cause

/-! ## 1. Updates -/

namespace Operator

/-- What an update does on a device: the latch before it, the calls, and the latch after it. -/
structure Edge (d : Device) (w : Wording) (service : Service) (before : Bool)
    (calls : List ShellCall) (after : Bool) : Prop where
  unwatched : ¬ Watched d → after = before
  watched : Watched d → (after = true ↔ Due d service)
  kept : after = before → calls = []
  raised : before = false → after = true → ∃ a,
    w.text .networkSelectionText [("operator", .text (d.operatorOf d.defaultLine).toList)] =
      .ok a.body ∧ calls = Delivery.toldOn d address a true
  lowered : before = true → after = false → calls = [.cancel address allUsers]

variable {d : Device} {w : Wording} {c : Context} {e : Session} {service : Service}
  {before after : Bool} {calls : List ShellCall} {r : Except Failure Unit}

theorem body_of_alert {operator : String} {a : Alert} (made : alert w operator = .ok a) :
    w.text .networkSelectionText [("operator", .text operator.toList)] = .ok a.body := by
  unfold alert at made
  cases htitle : w.text .networkSelectionTitle with
  | error cause =>
    rw [htitle] at made
    cases made
  | ok title =>
    cases hbody : w.text .networkSelectionText [("operator", .text operator.toList)] with
    | error cause =>
      rw [htitle, hbody] at made
      cases made
    | ok body =>
      rw [htitle, hbody] at made
      cases made
      rfl

theorem edge_still (settled : Watched d → (before = true ↔ Due d service)) :
    Edge d w service before [] before where
  unwatched _ := rfl
  watched := settled
  kept _ := rfl
  raised hbefore hafter := absurd (hbefore.symm.trans hafter) nofun
  lowered hbefore hafter := absurd (hbefore.symm.trans hafter) nofun

theorem edge_of_followed (watched : Watched d)
    (followed : Followed d w service before r calls after) (kept : after = before → r = .ok ()) :
    Edge d w service before calls after := by
  cases followed with
  | idle settled => exact edge_still (settled (kept rfl))
  | raised due made =>
    exact ⟨absurd watched, fun _ => iff_of_true rfl due, nofun,
      fun _ _ => ⟨_, body_of_alert made, rfl⟩, nofun⟩
  | brokenOff _ _ _ _ => exact absurd (kept rfl) nofun
  | lowered ended =>
    exact ⟨absurd watched, fun _ => iff_of_false nofun ended, nofun, nofun, fun _ _ => rfl⟩

theorem update_unwatched (h : ¬ Watched e.device) :
    (update c service).Ends before e fun _ after e' => after = before ∧ e.After [] e' := by
  refine Op.ends_device ?_
  by_cases hchooses : e.device.choosesOperator = true
  · rw [if_pos hchooses]
    have hline : e.device.defaultLine < 0 := by
      by_contra hline
      exact h ⟨hchooses, by omega⟩
    dsimp only
    rw [if_pos hline]
    exact Op.Quiet.log _ _ _ _ _
  · rw [if_neg hchooses]
    exact ⟨rfl, .refl e⟩

theorem raise_turns (sound : e.Sound) (line : Int) (operator : String) :
    (raise c line operator).Ends false e fun r after _ =>
      after = true ∨ ∃ f, r = .error f ∧ f.IsTextual := by
  refine Op.ends_ofRender (fun a _ => ?_) fun cause _ => Or.inr ⟨_, rfl, Or.inl ⟨cause, rfl⟩⟩
  refine (Delivery.present_ends _ a true).bind_sound
    (Delivery.present_coupled Coupling.single_lawful _ _ _) sound (fun _ _ _ _ => ?_)
    fun _ _ _ => False.elim
  -- the latch is closed before the decision is recorded
  exact Op.ends_modifyOwn ((Op.Quiet.record _ _).ends fun _ _ _ => Or.inl rfl)

theorem lower_turns (sound : e.Sound) (line : Int) :
    (lower c line).Ends true e fun _ after _ => after = false := by
  refine (Delivery.cancel_ends _).bind_sound
    (Delivery.cancel_coupled Coupling.single_lawful.toSteady _) sound (fun _ _ _ _ => ?_)
    fun _ _ _ => False.elim
  exact Op.ends_modifyOwn ((Op.Quiet.record _ _).ends fun _ _ _ => rfl)

-- An update that leaves the latch where it was fails for no other reason than a text.
theorem update_kept (sound : e.Sound) :
    (update c service).Ends before e fun r after _ =>
      after = before → r = .ok () ∨ ∃ f, r = .error f ∧ f.IsTextual := by
  refine Op.ends_device ?_
  split
  · dsimp only
    split
    · exact fun _ => Or.inl rfl
    · have unwritable (cause : Number.TooManyDigits) : (Failure.unwritable cause).IsTextual :=
        Or.inr ⟨cause, rfl⟩
      refine (chosenOperator_ends _).bind_sound
        (chosen_coupled (C := .single Failure.IsTextual) Coupling.single_lawful unwritable _) sound
        ?_ fun f _ _ textual _ => Or.inr ⟨f, rfl, textual⟩
      intro operator shown e₁ h
      obtain ⟨rfl, he₁, -⟩ := h
      refine Op.ends_log fun e₂ he₂ => Op.ends_own ?_
      have sound₂ : e₂.Sound := (sound.after he₁).after he₂
      cases shown with
      | false =>
        split
        · refine (raise_turns sound₂ _ operator).mono fun r after _ h hkept => ?_
          exact Or.inr (h.resolve_left (by simp [hkept]))
        · exact fun _ => Or.inl rfl
      | true =>
        split
        · exact fun _ => Or.inl rfl
        · exact (lower_turns sound₂ _).mono fun r after _ h hkept => nomatch h.symm.trans hkept
  · exact fun _ => Or.inl rfl

theorem update_edge (sound : e.Sound) :
    (update c service).Ends before e fun r after e' => (∀ f, r = .error f → ¬ f.IsTextual) →
      ∃ calls, e.After calls e' ∧ Edge e.device c.wording service before calls after := by
  by_cases hwatched : Watched e.device
  · have ends : (update c service).Ends before e fun r after e' =>
        (∃ calls, e.After calls e' ∧ Followed e.device c.wording service before r calls after) ∧
          (after = before → r = .ok () ∨ ∃ f, r = .error f ∧ f.IsTextual) :=
      ⟨update_ends service, update_kept sound⟩
    refine ends.mono fun r after e' h texts => ?_
    obtain ⟨⟨calls, he, followed⟩, kept⟩ := h
    refine ⟨calls, he, edge_of_followed hwatched followed fun hkept => ?_⟩
    rcases kept hkept with ok | ⟨f, failed, textual⟩
    · exact ok
    · exact absurd textual (texts f failed)
  · refine (update_unwatched hwatched).mono ?_
    intro r after e' h _
    obtain ⟨rfl, he⟩ := h
    exact ⟨[], he, edge_still fun h => absurd h hwatched⟩

end Operator

/-! ## 2. Steps -/

namespace Operator

/-- The calls of a step, with the latch before and after it: none where the latch stays, and the
alert is shown or cancelled where it turns. -/
inductive Turn : Bool → List ShellCall → Bool → Prop
  | still (latch : Bool) : Turn latch [] latch
  | shown {calls : List ShellCall} (h : ∀ c ∈ calls, ∃ a user, c = .present address a user) :
      Turn false calls true
  | cancelled : Turn true [.cancel address allUsers] false

theorem Turn.kept {before after : Bool} {calls : List ShellCall} (turn : Turn before calls after)
    (h : after = before) : calls = [] := by
  cases turn with
  | still _ => rfl
  | shown _ => cases h
  | cancelled => cases h

theorem Edge.turn {d : Device} {w : Wording} {service : Service} {before after : Bool}
    {calls : List ShellCall} (edge : Edge d w service before calls after) :
    Turn before calls after := by
  by_cases hkept : after = before
  · rw [hkept, edge.kept hkept]
    exact .still before
  · cases before with
    | false =>
      have hafter : after = true := by simpa using hkept
      obtain ⟨a, -, hcalls⟩ := edge.raised rfl hafter
      rw [hafter, hcalls]
      refine .shown fun c hc => ?_
      obtain ⟨p, -, -, hp⟩ := Delivery.mem_told hc
      exact ⟨_, _, hp⟩
    | true =>
      have hafter : after = false := by simpa using hkept
      rw [hafter, edge.lowered rfl hafter]
      exact .cancelled

end Operator

namespace Desk

variable {d d' : Desk} {e e' : Session} {s : Step} {steps : List Step} {report : Report Unit}

/-- A step that does not fail to make a text. -/
def Words (s : Step) (state : Desk × Session) : Prop :=
  ∀ f, (s.op.report state).1.result = .error f → ¬ f.IsTextual

theorem updateService_edge (sound : e.Sound) (service : Service)
    (words : Words (.request (.updateService service)) (d, e)) :
    let update := (perform (.updateService service)).report (d, e)
    update.2.1 = { d with operatorShown := update.2.1.operatorShown } ∧
      Operator.Edge e.device d.wording service d.operatorShown update.1.journal.calls
        update.2.1.operatorShown := by
  have ends : (perform (.updateService service)).Ends d e.blank fun r d' e' =>
      (∀ f, r = .error f → ¬ f.IsTextual) → d' = { d with operatorShown := d'.operatorShown } ∧
        Operator.Edge e.device d.wording service d.operatorShown e'.journal.calls
          d'.operatorShown := by
    refine Op.ends_own (ends_onOperator ((Operator.update_edge (e := e.blank) sound).mono ?_))
    intro r after e' h texts
    obtain ⟨calls, he, edge⟩ := h texts
    have hcalls : e'.journal.calls = calls := he.calls
    rw [hcalls]
    exact ⟨rfl, edge⟩
  exact ends words

theorem still_of_takes (takes : Takes d e s report d' e') (hs : ∀ r, s ≠ .request r) :
    d'.operatorShown = d.operatorShown ∧ report.journal.calls = [] := by
  cases takes with
  | @request r _ _ _ _ _ => exact absurd rfl (hs r)
  | settings c => exact ⟨rfl, rfl⟩
  | host c => exact ⟨rfl, rfl⟩

theorem step_turn (sound : e.Sound)
    (updates : ∀ r, s = .request r → ∃ service, r = .updateService service)
    (words : Words s (d, e)) :
    Operator.Turn d.operatorShown (s.op.report (d, e)).1.journal.calls
      (s.op.report (d, e)).2.1.operatorShown := by
  by_cases hs : ∃ r, s = .request r
  · obtain ⟨r, rfl⟩ := hs
    obtain ⟨service, rfl⟩ := updates r rfl
    exact (updateService_edge sound service words).2.turn
  · obtain ⟨hlatch, hcalls⟩ := still_of_takes (takes d e s) fun r hr => hs ⟨r, hr⟩
    rw [hlatch, hcalls]
    exact .still _

/-! ## 3. Runs -/

/-- A run of service updates, with any changes of the settings and the device between them, in
which no method of the host fails and every text can be made. -/
structure Watching (steps : List Step) (state : Desk × Session) : Prop where
  updates : ∀ r, .request r ∈ steps → ∃ service, r = .updateService service
  sound : state.2.Sound
  faultless : ∀ m f, .host (.fault m f) ∉ steps
  words : ∀ report ∈ (run steps state).1, ∀ f, report.result = .error f → ¬ f.IsTextual

/-- The steps of a run that turn the latch: where each turns it, and its calls. -/
def turns : List Step → Desk × Session → List (Bool × List ShellCall)
  | [], _ => []
  | s :: rest, state =>
    let (report, after) := s.op.report state
    if after.1.operatorShown = state.1.operatorShown then turns rest after
    else (after.1.operatorShown, report.journal.calls) :: turns rest after

/-- Turns of the latch that lead from where it stands at first to where it stands at last. -/
structure Alternate (first : Bool) (ts : List (Bool × List ShellCall)) (last : Bool) : Prop where
  each : ∀ t ∈ ts, Operator.Turn (!t.1) t.2 t.1
  chain : (first :: ts.map (·.1)).IsChain (· ≠ ·)
  balance : ts.countP (·.1) + first.toNat = ts.countP (!·.1) + last.toNat

theorem alternate_nil (latch : Bool) : Alternate latch [] latch where
  each _ ht := absurd ht List.not_mem_nil
  chain := .singleton latch
  balance := rfl

theorem Alternate.cons {first next last : Bool} {calls : List ShellCall}
    {ts : List (Bool × List ShellCall)} (turn : Operator.Turn first calls next)
    (turned : next ≠ first) (h : Alternate next ts last) :
    Alternate first ((next, calls) :: ts) last where
  each := by
    have hfirst : first = !next := Bool.eq_not.2 turned.symm
    exact List.forall_mem_cons.2 ⟨hfirst ▸ turn, h.each⟩
  chain := List.isChain_cons_cons.2 ⟨turned.symm, h.chain⟩
  balance := by
    have hbalance := h.balance
    cases turn with
    | still _ => exact absurd rfl turned
    | shown _ =>
      rw [List.countP_cons_of_pos rfl, List.countP_cons_of_neg (by simp)]
      exact hbalance
    | cancelled =>
      rw [List.countP_cons_of_neg (by simp), List.countP_cons_of_pos rfl]
      change ts.countP (·.1) + 0 = _ at hbalance
      change ts.countP (·.1) + 1 = _
      omega

variable {past rest : List Step} {state : Desk × Session}

theorem Watching.before (watching : Watching (past ++ rest) state) : Watching past state where
  updates r hr := watching.updates r (List.mem_append_left _ hr)
  sound := watching.sound
  faultless m f hf := watching.faultless m f (List.mem_append_left _ hf)
  words report hreport := by
    have hwords := watching.words
    rw [run_append] at hwords
    exact hwords report (List.mem_append_left _ hreport)

theorem Watching.after (watching : Watching (past ++ rest) state) :
    Watching rest (run past state).2 where
  updates r hr := watching.updates r (List.mem_append_right _ hr)
  sound := run_sound watching.sound watching.before.faultless
  faultless m f hf := watching.faultless m f (List.mem_append_right _ hf)
  words report hreport := by
    have hwords := watching.words
    rw [run_append] at hwords
    exact hwords report (List.mem_append_right _ hreport)

theorem Watching.head (watching : Watching (s :: rest) state) : Words s state :=
  watching.words _ List.mem_cons_self

theorem run_turns (watching : Watching steps state) :
    (run steps state).1.flatMap (·.journal.calls) = (turns steps state).flatMap (·.2) ∧
      Alternate state.1.operatorShown (turns steps state) (run steps state).2.1.operatorShown := by
  induction steps generalizing state with
  | nil => exact ⟨rfl, alternate_nil _⟩
  | cons s rest ih =>
    have whole : Watching ([s] ++ rest) state := watching
    obtain ⟨hcalls, halternate⟩ := ih whole.after
    have turn := step_turn watching.sound (fun r hr => watching.updates r (hr ▸ List.mem_cons_self))
      watching.head
    have hrun : (run (s :: rest) state).1.flatMap (·.journal.calls) =
        (s.op.report state).1.journal.calls ++ (turns rest (s.op.report state).2).flatMap (·.2) :=
      congrArg _ hcalls
    rw [hrun, turns]
    dsimp only
    split
    · rename_i hkept
      rw [turn.kept hkept, List.nil_append, ← hkept]
      exact ⟨rfl, halternate⟩
    · rename_i hturned
      exact ⟨rfl, halternate.cons turn hturned⟩

theorem run_still (hsteps : ∀ r, .request r ∉ steps) :
    (run steps (d, e)).2.1.operatorShown = d.operatorShown := by
  refine run_induction (I := fun _ d' _ => d'.operatorShown = d.operatorShown) rfl ?_
  intro _ d₁ e₁ s report d₂ e₂ hs hlatch htakes
  rw [(still_of_takes htakes fun r hr => hsteps r (hr ▸ hs)).1, hlatch]

theorem Watching.edge {service : Service}
    (watching : Watching (past ++ .request (.updateService service) :: rest) state) :
    let before := (run past state).2
    let update := (perform (.updateService service)).report before
    update.2.1 = { before.1 with operatorShown := update.2.1.operatorShown } ∧
      Operator.Edge before.2.device before.1.wording service before.1.operatorShown
        update.1.journal.calls update.2.1.operatorShown :=
  updateService_edge watching.after.sound service watching.after.head

theorem repeated_update {between : List Step} {service : Service}
    (watching : Watching ((past ++ .request (.updateService service) :: between) ++
      .request (.updateService service) :: rest) state) (hbetween : ∀ r, .request r ∉ between)
    (hdevice : (run (past ++ .request (.updateService service) :: between) state).2.2.device =
      (run past state).2.2.device) :
    ((perform (.updateService service)).report
      (run (past ++ .request (.updateService service) :: between) state).2).1.journal.calls =
        [] := by
  have first := watching.before.edge.2
  have second := watching.edge.2
  have hlatch :
      (run (past ++ .request (.updateService service) :: between) state).2.1.operatorShown =
      ((perform (.updateService service)).report (run past state).2).2.1.operatorShown := by
    rw [run_append]
    exact run_still hbetween
  rw [hdevice, hlatch] at second
  refine second.kept ?_
  by_cases hwatched : Operator.Watched (run past state).2.2.device
  · -- both updates leave the latch as the service state asks for it
    exact Bool.eq_iff_iff.2 ((second.watched hwatched).trans (first.watched hwatched).symm)
  · exact second.unwatched hwatched

/-- As long as nothing fails, every update leaves the latch as the service state and the chosen
operator ask for it, and nothing but the latch is changed; where the device is not told of service
states nothing is.  Calls are made where the latch turns and nowhere else: the alert about the
operator chosen then is shown, or it is cancelled.  So showings and cancellations alternate, a
showing first, and the latch tells whether one is outstanding.  An update repeated at the same
device makes no calls. -/
theorem latch_edges {d : Desk} {e : Session} {steps : List Step} (watching : Watching steps (d, e))
    (hidden : d.operatorShown = false) :
    (∀ past service rest, steps = past ++ .request (.updateService service) :: rest →
      let before := (run past (d, e)).2
      let update := (perform (.updateService service)).report before
      update.2.1 = { before.1 with operatorShown := update.2.1.operatorShown } ∧
        Operator.Edge before.2.device d.wording service before.1.operatorShown
          update.1.journal.calls update.2.1.operatorShown) ∧
    (run steps (d, e)).1.flatMap (·.journal.calls) = (turns steps (d, e)).flatMap (·.2) ∧
    Alternate false (turns steps (d, e)) (run steps (d, e)).2.1.operatorShown ∧
    ∀ past between service rest, steps =
        (past ++ .request (.updateService service) :: between) ++
          .request (.updateService service) :: rest →
      let again := (run (past ++ .request (.updateService service) :: between) (d, e)).2
      (∀ r, .request r ∉ between) → again.2.device = (run past (d, e)).2.2.device →
        ((perform (.updateService service)).report again).1.journal.calls = [] := by
  obtain ⟨hcalls, halternate⟩ := run_turns watching
  refine ⟨?_, hcalls, hidden ▸ halternate, ?_⟩
  · rintro past service rest rfl
    rw [← run_wording past d e]
    exact watching.edge
  · rintro past between service rest rfl again hbetween hdevice
    exact repeated_update watching hbetween hdevice

/-- The operator is forgotten while the alert stands, and the alert about the next one reaches
nobody.  In the end no operator can be chosen. -/
def restless : List Step :=
  [.request (.updateService .outOfService), .host (.device (.now Desk.twoUsers.now)),
    .request (.updateService .outOfService),
    .host (.device (.noPreference "network_selection_name_key5")), .host (.device (.profiles [])),
    .request (.updateService .outOfService),
    .host (.device (.preference "network_selection_key5" "310260")),
    .request (.updateService .outOfService), .host (.device (.choosesOperator false)),
    .request (.updateService .inService)]

theorem latch_edges_restless :
    let state : Desk × Session := (fresh, { device := twoUsers })
    Watching restless state ∧ fresh.operatorShown = false ∧
      (turns restless state).map (fun t => (t.1, t.2.length)) = [(true, 2), (false, 1), (true, 0)] ∧
      (run restless state).1.flatMap (·.journal.calls) = (turns restless state).flatMap (·.2) ∧
      Alternate false (turns restless state) true := by
  intro state
  have watching : Watching restless state := by
    refine ⟨fun r hr => ?_, fun _ => rfl, fun m f => by simp [restless], fun report hreport => ?_⟩
    · simp only [restless, List.mem_cons, List.not_mem_nil, or_false, reduceCtorEq, false_or,
        Step.request.injEq] at hr
      rcases hr with rfl | rfl | rfl | rfl | rfl <;> exact ⟨_, rfl⟩
    · have hall : (run restless state).1.all (·.result.isOk) = true := by decide +kernel
      have hok := eq_ok_of_isOk (List.all_eq_true.1 hall report hreport)
      rw [hok]
      exact nofun
  have edges := latch_edges watching rfl
  have hlatch : (run restless state).2.1.operatorShown = true := by decide +kernel
  rw [hlatch] at edges
  exact ⟨watching, rfl, by decide +kernel, edges.2.1, edges.2.2.1⟩

end Desk

end TelephonyAlerts
