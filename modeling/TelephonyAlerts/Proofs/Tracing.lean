import TelephonyAlerts.Proofs.Coupling
import TelephonyAlerts.Proofs.Run
import TelephonyAlerts.Proofs.Sampling

/-!
# Tracing

What a desk does is the same whatever it records.  Two runs of the same steps that differ in their
sampling, in the sink and in the numbers drawn give the same results, calls and log rows, and pass
through the same states; and what they record is related as the samplings and sinks are.
-/

namespace TelephonyAlerts

open TelephonyAlerts.Data TelephonyAlerts.Number

/-! ## 1. Sessions that differ in their trace -/

/-- Sessions at the same device, where the same methods fail. -/
structure Session.SameHost (e₁ e₂ : Session) : Prop where
  device : e₁.device = e₂.device
  faults : e₁.faults = e₂.faults

theorem Session.SameHost.apply {e₁ e₂ : Session} (host : e₁.SameHost e₂) (c : Session.Change) :
    (e₁.apply c).SameHost (e₂.apply c) := by
  cases c with
  | device c => exact ⟨congrArg (·.apply c) host.device, host.faults⟩
  | fault m f => exact ⟨host.device, by simp only [Session.apply, host.faults]⟩
  | noFaults => exact ⟨host.device, rfl⟩

theorem Session.call_withTrace (e : Session) (t : Trace) (m : Method) :
    (e.withTrace t).call m = ((e.call m).1, (e.call m).2.withTrace t) := by
  have hfaults : (e.withTrace t).faults m = e.faults m := rfl
  unfold call
  rw [hfaults]
  rcases e.faults m with _ | ⟨_ | n, failure⟩ <;> rfl

theorem Session.call_trace (e : Session) (m : Method) : (e.call m).2.trace = e.trace := by
  unfold call
  rcases e.faults m with _ | ⟨_ | n, failure⟩ <;> rfl

/-- Where recording does not fail, sessions belong together that differ in their trace only. -/
def Coupling.traced (T : Trace → Trace → Prop) : Coupling where
  session e₁ e₂ := e₁.faults .record = none ∧ ∃ t, e₂ = e₁.withTrace t ∧ T e₁.trace t
  failure _ := True

variable {T : Trace → Trace → Prop}

theorem Coupling.traced_lawful : (Coupling.traced T).Lawful where
  device := by
    rintro e₁ _ ⟨-, t, rfl, -⟩
    rfl
  log level source text := by
    rintro s₁ s₂ e₁ _ hs ⟨faultless, t, rfl, ht⟩
    exact ⟨rfl, hs, ⟨faultless, t, rfl, ht⟩, fun _ _ => trivial⟩
  note c := by
    rintro s₁ s₂ e₁ _ hs ⟨faultless, t, rfl, ht⟩
    exact ⟨rfl, hs, ⟨faultless, t, rfl, ht⟩, fun _ _ => trivial⟩
  call {σ O m} _ := by
    rintro s₁ s₂ e₁ _ hs ⟨faultless, t, rfl, ht⟩
    rw [Op.call_apply, Op.call_apply, Session.call_withTrace]
    have faultless' := (e₁.call_after m).faultless faultless
    exact ⟨rfl, hs, ⟨faultless', t, rfl, (e₁.call_trace m).symm ▸ ht⟩, fun _ _ => trivial⟩

theorem Coupling.traced_ties {c₁ c₂ : Context} (wording : c₁.wording = c₂.wording)
    (unit₁ : c₁.sampling.rate.inUnit) (unit₂ : c₂.sampling.rate.inUnit)
    (take : ∀ t₁ t₂ r, T t₁ t₂ → T (t₁.take c₁.sampling r) (t₂.take c₂.sampling r)) :
    (Coupling.traced T).Ties c₁ c₂ where
  toLawful := traced_lawful
  record d := by
    rintro s₁ s₂ e₁ _ hs ⟨faultless, t, rfl, ht⟩
    have faultless' : (e₁.withTrace t).faults .record = none := faultless
    rw [Op.record_apply, Op.record_apply, Session.record_eq_withTrace unit₁ faultless,
      Session.record_eq_withTrace unit₂ faultless']
    exact ⟨rfl, hs, ⟨faultless, _, rfl, take _ _ _ ht⟩, fun _ _ => trivial⟩
  covers := .all
  wording := wording
  renders _ _ _ _ _ := trivial

/-! ## 2. Steps of two runs -/

namespace Desk

theorem Alike.apply {d₁ d₂ : Desk} (alike : d₁.Alike d₂) (c : Change) :
    (d₁.apply c).Alike (d₂.apply c) := by
  have huntraced (d : Desk) : (d.apply c).untraced = (d.untraced.apply c).untraced := by
    cases c <;> rfl
  have same : d₁.untraced = d₂.untraced := alike
  show (d₁.apply c).untraced = (d₂.apply c).untraced
  rw [huntraced d₁, huntraced d₂, same]

def Step.switches : Step → Bool
  | .settings (.tracing _) => true
  | _ => false

def Step.sampling : Step → Sampling → Sampling
  | .settings (.tracing enabled), s => { s with enabled }
  | _, s => s

/-- Steps that are the same apart from switches of tracing.  They keep samplings related, and none
makes recording fail. -/
inductive Retraced (P : Sampling → Sampling → Prop) : List Step → List Step → Prop
  | nil : Retraced P [] []
  | step {s : Step} {steps₁ steps₂ : List Step} (sound : ∀ f, s ≠ .host (.fault .record f))
      (kept : ∀ s₁ s₂, P s₁ s₂ → P (s.sampling s₁) (s.sampling s₂))
      (rest : Retraced P steps₁ steps₂) : Retraced P (s :: steps₁) (s :: steps₂)
  | left {enabled : Bool} {steps₁ steps₂ : List Step}
      (kept : ∀ s₁ s₂, P s₁ s₂ → P { s₁ with enabled } s₂)
      (rest : Retraced P steps₁ steps₂) :
      Retraced P (.settings (.tracing enabled) :: steps₁) steps₂
  | right {enabled : Bool} {steps₁ steps₂ : List Step}
      (kept : ∀ s₁ s₂, P s₁ s₂ → P s₁ { s₂ with enabled })
      (rest : Retraced P steps₁ steps₂) :
      Retraced P steps₁ (.settings (.tracing enabled) :: steps₂)

/-- What a step shows, whatever it records: its result, the calls and log rows, and the desk and
host that it leaves. -/
structure View where
  result : Except Failure Unit
  calls : List ShellCall
  rows : List LogRow
  desk : Desk
  device : Device
  faults : Method → Option Fault

def view (x : Report Unit × Desk × Session) : View :=
  ⟨x.1.result, x.1.journal.calls, x.1.journal.rows, x.2.1.untraced, x.2.2.device, x.2.2.faults⟩

/-- What the steps of a run show, without switches of tracing. -/
def views : List Step → Desk × Session → List View
  | [], _ => []
  | s :: rest, state =>
    if s.switches then views rest (s.op.report state).2
    else view (s.op.report state) :: views rest (s.op.report state).2

/-- The records that the callback gets during a run. -/
def emitted (steps : List Step) (state : Desk × Session) : List Record :=
  (run steps state).1.flatMap (·.journal.records)

theorem emitted_cons (s : Step) (rest : List Step) (state : Desk × Session) :
    emitted (s :: rest) state =
      (s.op.report state).1.journal.records ++ emitted rest (s.op.report state).2 := rfl

end Desk

/-! ## 3. Two runs -/

/-- What two runs record: as long as their samplings are related, a decision that both take keeps
their traces related. -/
structure Tracking where
  sampling : Sampling → Sampling → Prop
  trace : Trace → Trace → Prop
  unit : ∀ {s₁ s₂}, sampling s₁ s₂ → s₁.rate.inUnit ∧ s₂.rate.inUnit
  take : ∀ {s₁ s₂}, sampling s₁ s₂ → ∀ t₁ t₂ r, trace t₁ t₂ →
    trace (t₁.take s₁ r) (t₂.take s₂ r)

namespace Tracking

open TelephonyAlerts.Desk

/-- Two runs stand at related states, after the records that each has handed out. -/
structure Relates (K : Tracking) (past₁ past₂ : List Record) (x₁ x₂ : Desk × Session) : Prop where
  desks : x₁.1.Alike x₂.1
  sampling : K.sampling x₁.1.settings.tracing x₂.1.settings.tracing
  host : x₁.2.SameHost x₂.2
  faultless : x₁.2.faults .record = none
  trace : K.trace (x₁.2.blank.trace.after past₁) (x₂.2.blank.trace.after past₂)

variable {K : Tracking} {past₁ past₂ : List Record} {x₁ x₂ : Desk × Session} {s : Step}
  {steps₁ steps₂ : List Step}

theorem blank_eq_withTrace {e₁ e₂ : Session} (host : e₁.SameHost e₂) :
    e₂.blank = e₁.blank.withTrace e₂.blank.trace := by
  obtain ⟨device, faults, draws, sink, journal⟩ := e₁
  obtain ⟨_, _, draws', sink', journal'⟩ := e₂
  obtain ⟨rfl, rfl⟩ := host
  rfl

theorem blank_trace_after (e : Session) (past : List Record) :
    e.blank.trace.after (past ++ e.journal.records) = e.trace.after past := by
  simp [Session.blank, Session.trace, Trace.after]

theorem request_related (h : K.Relates past₁ past₂ x₁ x₂) (request : Request) :
    view ((perform request).report x₁) = view ((perform request).report x₂) ∧
      K.Relates (past₁ ++ ((perform request).report x₁).1.journal.records)
        (past₂ ++ ((perform request).report x₂).1.journal.records)
        ((perform request).report x₁).2 ((perform request).report x₂).2 := by
  obtain ⟨d₁, e₁⟩ := x₁
  obtain ⟨d₂, e₂⟩ := x₂
  obtain ⟨unit₁, unit₂⟩ := K.unit h.sampling
  have untraced : d₁.untraced = d₂.untraced := h.desks
  have hwording : d₁.wording = d₂.wording := congrArg (·.wording) untraced
  -- the coupling sees the journals of the request alone, so the past is put before them
  let T (t₁ t₂ : Trace) : Prop := K.trace (t₁.after past₁) (t₂.after past₂)
  have ties : (Coupling.traced T).Ties d₁.context d₂.context := by
    refine Coupling.traced_ties hwording unit₁ unit₂ fun t₁ t₂ r ht => ?_
    have htake := K.take h.sampling _ _ r ht
    rwa [Trace.take_after, Trace.take_after] at htake
  have blank : (Coupling.traced T).session e₁.blank e₂.blank :=
    ⟨h.faultless, e₂.blank.trace, blank_eq_withTrace h.host, h.trace⟩
  have hmeet := perform_coupled ties h.desks blank request
  have hsettings (d : Desk) (e : Session) :
      (perform request (d, e.blank)).2.1.settings = d.settings :=
    settings_of_does (report_does request (d, e))
  have hsettings₁ := hsettings d₁ e₁
  have hsettings₂ := hsettings d₂ e₂
  rw [Op.report_apply, Op.report_apply]
  -- how the request was answered does not matter any more, only where both answers ended
  generalize perform request (d₁, e₁.blank) = y₁ at hmeet hsettings₁ ⊢
  generalize perform request (d₂, e₂.blank) = y₂ at hmeet hsettings₂ ⊢
  obtain ⟨r₁, d₁', e₁'⟩ := y₁
  obtain ⟨r₂, d₂', e₂'⟩ := y₂
  obtain ⟨result, own, ⟨faultless, t, rfl, ht⟩, -⟩ := hmeet
  obtain rfl : r₁ = r₂ := result
  have own' : d₁'.untraced = d₂'.untraced := own
  refine ⟨by simp only [view, own']; rfl, own, ?_, ⟨rfl, rfl⟩, faultless, ?_⟩
  · show K.sampling d₁'.settings.tracing d₂'.settings.tracing
    rw [hsettings₁, hsettings₂]
    exact h.sampling
  · rw [blank_trace_after, blank_trace_after]
    exact ht

theorem changed_related {d₁ d₂ : Desk} {e₁ e₂ : Session} (desks : d₁.Alike d₂)
    (sampling : K.sampling d₁.settings.tracing d₂.settings.tracing) (host : e₁.SameHost e₂)
    (faultless : e₁.faults .record = none)
    (trace : K.trace (e₁.blank.trace.after past₁) (e₂.blank.trace.after past₂)) :
    view (⟨.ok (), {}⟩, d₁, e₁.blank) = view (⟨.ok (), {}⟩, d₂, e₂.blank) ∧
      K.Relates (past₁ ++ []) (past₂ ++ []) (d₁, e₁.blank) (d₂, e₂.blank) := by
  have untraced : d₁.untraced = d₂.untraced := desks
  rw [List.append_nil, List.append_nil]
  refine ⟨?_, desks, sampling, ⟨host.device, host.faults⟩, faultless, trace⟩
  simp only [view, untraced, Session.blank, host.device, host.faults]

theorem step_related (h : K.Relates past₁ past₂ x₁ x₂) (sound : ∀ f, s ≠ .host (.fault .record f))
    (kept : ∀ s₁ s₂, K.sampling s₁ s₂ → K.sampling (s.sampling s₁) (s.sampling s₂)) :
    view (s.op.report x₁) = view (s.op.report x₂) ∧
      K.Relates (past₁ ++ (s.op.report x₁).1.journal.records)
        (past₂ ++ (s.op.report x₂).1.journal.records) (s.op.report x₁).2 (s.op.report x₂).2 := by
  obtain ⟨d₁, e₁⟩ := x₁
  obtain ⟨d₂, e₂⟩ := x₂
  cases s with
  | request request => exact request_related h request
  | settings c =>
    have hsampling (d : Desk) :
        (d.apply c).settings.tracing = (Step.settings c).sampling d.settings.tracing := by
      cases c <;> rfl
    refine changed_related (h.desks.apply c) ?_ h.host h.faultless h.trace
    rw [hsampling, hsampling]
    exact kept _ _ h.sampling
  | host c =>
    have htrace (e : Session) : (e.apply c).blank.trace = e.blank.trace := by cases c <;> rfl
    have hhost : (e₁.apply c).SameHost (e₂.apply c) := h.host.apply c
    have hfaultless : (e₁.apply c).faults .record = none :=
      Session.faultless_apply h.faultless fun f hc => sound f (congrArg Step.host hc)
    have hreport (d : Desk) (e : Session) :
        (Step.host c).op.report (d, e) = (⟨.ok (), {}⟩, d, (e.apply c).blank) := by
      cases c <;> rfl
    rw [hreport, hreport]
    exact changed_related h.desks h.sampling hhost hfaultless (htrace e₁ ▸ htrace e₂ ▸ h.trace)

-- a switch that one run alone makes shows nothing and leaves its desk alike
theorem left_related {enabled : Bool} (h : K.Relates past₁ past₂ x₁ x₂)
    (kept : ∀ s₁ s₂, K.sampling s₁ s₂ → K.sampling { s₁ with enabled } s₂) :
    K.Relates past₁ past₂ ((Step.settings (.tracing enabled)).op.report x₁).2 x₂ :=
  ⟨h.desks, kept _ _ h.sampling, ⟨h.host.device, h.host.faults⟩, h.faultless, h.trace⟩

theorem right_related {enabled : Bool} (h : K.Relates past₁ past₂ x₁ x₂)
    (kept : ∀ s₁ s₂, K.sampling s₁ s₂ → K.sampling s₁ { s₂ with enabled }) :
    K.Relates past₁ past₂ x₁ ((Step.settings (.tracing enabled)).op.report x₂).2 :=
  ⟨h.desks, kept _ _ h.sampling, ⟨h.host.device, h.host.faults⟩, h.faultless, h.trace⟩

/-- Runs of the same steps show the same and stand at related states. -/
theorem run_related (retraced : Retraced K.sampling steps₁ steps₂)
    (h : K.Relates past₁ past₂ x₁ x₂) :
    views steps₁ x₁ = views steps₂ x₂ ∧
      K.Relates (past₁ ++ emitted steps₁ x₁) (past₂ ++ emitted steps₂ x₂)
        (run steps₁ x₁).2 (run steps₂ x₂).2 := by
  induction retraced generalizing past₁ past₂ x₁ x₂ with
  | nil =>
    refine ⟨rfl, ?_⟩
    show K.Relates (past₁ ++ []) (past₂ ++ []) x₁ x₂
    rwa [List.append_nil, List.append_nil]
  | @step s steps₁ steps₂ sound kept rest ih =>
    obtain ⟨hview, hstep⟩ := step_related h sound kept
    -- what the first step handed out is past for the rest of both runs
    obtain ⟨hviews, hrest⟩ := ih hstep
    rw [List.append_assoc, List.append_assoc, ← emitted_cons, ← emitted_cons] at hrest
    refine ⟨?_, hrest⟩
    rw [views, views, hview, hviews]
  | left kept rest ih => exact ih (left_related h kept)
  | right kept rest ih => exact ih (right_related h kept)

/-- Nothing is asked of what the runs record. -/
def any : Tracking where
  sampling s₁ s₂ := s₁.rate.inUnit ∧ s₂.rate.inUnit
  trace _ _ := True
  unit h := h
  take _ _ _ _ _ := trivial

/-- Both runs hand their records to a callback, and the second records everything. -/
def share : Tracking where
  sampling s₁ s₂ := s₁.rate.inUnit ∧ s₂ = .always
  trace t₁ t₂ := t₁.sink = .callback ∧ t₂.sink = .callback ∧ t₁.records.Sublist t₂.records
  unit := by
    rintro s₁ _ ⟨unit, rfl⟩
    exact ⟨unit, rfl⟩
  take := by
    rintro s₁ _ ⟨-, rfl⟩ ⟨sink₁, draws₁, records₁⟩ ⟨sink₂, draws₂, records₂⟩ r ⟨hsink₁, hsink₂, h⟩
    obtain rfl : sink₁ = .callback := hsink₁
    obtain rfl : sink₂ = .callback := hsink₂
    rcases Trace.take_cases ⟨.callback, draws₁, records₁⟩ s₁ r with h₁ | h₁
    · rw [h₁]
      exact ⟨rfl, rfl, h.trans (List.sublist_append_left records₂ [r])⟩
    · rw [h₁]
      exact ⟨rfl, rfl, h.append_right [r]⟩

/-- Both runs record the same, the first in a buffer and the second with a callback. -/
def buffered (capacity : Option Nat) : Tracking where
  sampling s₁ s₂ := s₁.rate.inUnit ∧ s₁ = s₂
  trace t₁ t₂ := t₁.draws = t₂.draws ∧ t₂.sink = .callback ∧
    t₁.sink = .buffer capacity (Sink.keepLast capacity t₂.records)
  unit := by
    rintro s _ ⟨unit, rfl⟩
    exact ⟨unit, unit⟩
  take := by
    rintro s _ ⟨-, rfl⟩ ⟨sink₁, draws, records₁⟩ ⟨sink₂, _, records₂⟩ r ⟨hdraws, hsink₂, hsink₁⟩
    obtain rfl := hdraws
    obtain rfl : sink₂ = .callback := hsink₂
    obtain rfl : sink₁ = .buffer capacity (Sink.keepLast capacity records₂) := hsink₁
    unfold Trace.take
    dsimp only
    rcases (s.selects draws).1 with u | _ | _
    · exact ⟨rfl, rfl, rfl⟩
    · exact ⟨rfl, rfl, rfl⟩
    · exact ⟨rfl, rfl, congrArg (Sink.buffer capacity) (Sink.keepLast_snoc capacity records₂ r)⟩

end Tracking

/-! ## 4. What tracing leaves alone -/

namespace Desk

variable {P : Sampling → Sampling → Prop} {s : Step} {steps steps₁ steps₂ : List Step}

theorem Step.eq_of_switches (h : s.switches = true) :
    ∃ enabled, s = .settings (.tracing enabled) := by
  cases s with
  | settings c =>
    cases c with
    | tracing enabled => exact ⟨enabled, rfl⟩
    | _ => cases h
  | _ => cases h

theorem Step.sampling_of_not_switches (h : s.switches = false) (sampling : Sampling) :
    s.sampling sampling = sampling := by
  cases s with
  | settings c =>
    cases c with
    | tracing enabled => cases h
    | _ => rfl
  | _ => rfl

theorem retraced_of_filter
    (same : steps₁.filter (!·.switches) = steps₂.filter (!·.switches))
    (sound : ∀ f, Step.host (.fault .record f) ∉ steps₁)
    (left : ∀ enabled, Step.settings (.tracing enabled) ∈ steps₁ →
      ∀ s₁ s₂, P s₁ s₂ → P { s₁ with enabled } s₂)
    (right : ∀ enabled, Step.settings (.tracing enabled) ∈ steps₂ →
      ∀ s₁ s₂, P s₁ s₂ → P s₁ { s₂ with enabled }) : Retraced P steps₁ steps₂ := by
  induction steps₁ generalizing steps₂ with
  | nil =>
    induction steps₂ with
    | nil => exact .nil
    | cons s rest ih =>
      by_cases hs : s.switches = true
      · obtain ⟨enabled, rfl⟩ := Step.eq_of_switches hs
        exact .right (right _ List.mem_cons_self)
          (ih same fun _ h => right _ (List.mem_cons_of_mem _ h))
      · rw [List.filter_cons_of_pos (by simpa using hs)] at same
        cases same
  | cons s rest ih =>
    have sound' (f : Fault) : Step.host (.fault .record f) ∉ rest :=
      fun h => sound f (List.mem_cons_of_mem _ h)
    have left' (enabled : Bool) (h : Step.settings (.tracing enabled) ∈ rest) :=
      left enabled (List.mem_cons_of_mem _ h)
    by_cases hs : s.switches = true
    · obtain ⟨enabled, rfl⟩ := Step.eq_of_switches hs
      exact .left (left _ List.mem_cons_self) (ih same sound' left' right)
    · rw [List.filter_cons_of_pos (by simpa using hs)] at same
      -- the second run may switch tracing before it takes the step
      induction steps₂ with
      | nil => cases same
      | cons s' rest' ih' =>
        have right' (enabled : Bool) (h : Step.settings (.tracing enabled) ∈ rest') :=
          right enabled (List.mem_cons_of_mem _ h)
        by_cases hs' : s'.switches = true
        · obtain ⟨enabled, rfl⟩ := Step.eq_of_switches hs'
          exact .right (right _ List.mem_cons_self) (ih' same right')
        · rw [List.filter_cons_of_pos (by simpa using hs')] at same
          obtain ⟨rfl, hrest⟩ := List.cons.inj same
          refine .step (fun f h => sound f (h ▸ List.mem_cons_self)) (fun s₁ s₂ h => ?_)
            (ih hrest sound' left' right')
          have hs : s.switches = false := by simpa using hs
          rwa [Step.sampling_of_not_switches hs, Step.sampling_of_not_switches hs]

theorem retraced_self (sound : ∀ f, Step.host (.fault .record f) ∉ steps)
    (kept : ∀ (s : Step) s₁ s₂, P s₁ s₂ → P (s.sampling s₁) (s.sampling s₂)) :
    Retraced P steps steps := by
  induction steps with
  | nil => exact .nil
  | cons s rest ih =>
    exact .step (fun f h => sound f (h ▸ List.mem_cons_self)) (kept s)
      (ih fun f h => sound f (List.mem_cons_of_mem _ h))

theorem Step.sampling_rate (s : Step) (sampling : Sampling) :
    (s.sampling sampling).rate = sampling.rate := by
  cases s with
  | settings c => cases c <;> rfl
  | _ => rfl

/-- The same steps, taken by desks that differ in what they record, give the same results, calls,
log rows and states.  What is recorded is a part of what would be recorded if everything were, in
its order; and a buffer ends up with the latest of what a callback would have got. -/
theorem tracing_unobserved {d₁ d₂ : Desk} {e₁ e₂ : Session} (desks : d₁.Alike d₂)
    (host : e₁.SameHost e₂) (unit₁ : d₁.settings.tracing.rate.inUnit)
    (unit₂ : d₂.settings.tracing.rate.inUnit)
    (same : steps₁.filter (!·.switches) = steps₂.filter (!·.switches))
    (faultless : e₁.faults .record = none)
    (sound : ∀ f, Step.host (.fault .record f) ∉ steps₁) :
    (views steps₁ (d₁, e₁) = views steps₂ (d₂, e₂) ∧
      (run steps₁ (d₁, e₁)).2.1.Alike (run steps₂ (d₂, e₂)).2.1 ∧
      (run steps₁ (d₁, e₁)).2.2.SameHost (run steps₂ (d₂, e₂)).2.2) ∧
    (e₁.sink = .callback → e₂.sink = .callback → d₂.settings.tracing = .always →
      Step.settings (.tracing false) ∉ steps₂ →
        (emitted steps₁ (d₁, e₁)).Sublist (emitted steps₂ (d₂, e₂))) ∧
    ∀ capacity, (run steps₁ (d₁, { e₁ with sink := .buffer capacity [] })).2.2.sink =
      .buffer capacity
        (Sink.keepLast capacity (emitted steps₁ (d₁, { e₁ with sink := .callback }))) := by
  refine ⟨?_, fun hsink₁ hsink₂ always on => ?_, fun capacity => ?_⟩
  · have retraced : Retraced Tracking.any.sampling steps₁ steps₂ :=
      retraced_of_filter same sound (fun _ _ _ _ h => h) fun _ _ _ _ h => h
    have start : Tracking.any.Relates [] [] (d₁, e₁) (d₂, e₂) :=
      ⟨desks, ⟨unit₁, unit₂⟩, host, faultless, trivial⟩
    obtain ⟨hviews, hrun⟩ := Tracking.run_related retraced start
    exact ⟨hviews, hrun.desks, hrun.host⟩
  · have retraced : Retraced Tracking.share.sampling steps₁ steps₂ := by
      refine retraced_of_filter same sound (fun _ _ _ _ h => h) fun enabled h s₁ s₂ hs => ?_
      obtain ⟨unit, rfl⟩ := hs
      cases enabled with
      | true => exact ⟨unit, rfl⟩
      | false => exact absurd h on
    have start : Tracking.share.Relates [] [] (d₁, e₁) (d₂, e₂) :=
      ⟨desks, ⟨unit₁, always⟩, host, faultless, hsink₁, hsink₂, List.Sublist.refl _⟩
    have hrecords := (Tracking.run_related retraced start).2.trace.2.2
    simpa [Trace.after, Session.trace, Session.blank] using hrecords
  · have retraced : Retraced (Tracking.buffered capacity).sampling steps₁ steps₁ := by
      refine retraced_self sound fun s s₁ s₂ h => ?_
      obtain ⟨unit, rfl⟩ := h
      exact ⟨by rwa [s.sampling_rate], rfl⟩
    have start : (Tracking.buffered capacity).Relates [] []
        (d₁, { e₁ with sink := .buffer capacity [] }) (d₁, { e₁ with sink := .callback }) :=
      ⟨rfl, ⟨unit₁, rfl⟩, ⟨rfl, rfl⟩, faultless, rfl, rfl,
        congrArg (Sink.buffer capacity) (Sink.keepLast_nil capacity).symm⟩
    have hsink := (Tracking.run_related retraced start).2.trace.2.2
    simpa [Trace.after, Session.trace, Session.blank] using hsink

/-- At a rate of one half the second of three decisions is passed over, and the last is not recorded
because tracing is off by then. -/
theorem tracing_unobserved_halved :
    let half : Sampling := { enabled := true, rate := .finite false (Nat.pow 2 52) (-53) }
    let d₁ : Desk := { fresh with settings := { tracing := half } }
    let d₂ : Desk := { fresh with settings := { tracing := .always } }
    let e₁ : Session := { device := twoUsers, draws := { upcoming := [100, 700, 499] } }
    let e₂ : Session := { device := twoUsers }
    let shown : List Step := [.request (.updateForwarding 5 true), .request .showRoaming]
    let hidden : List Step := [.request (.updateForwarding 5 false)]
    let steps₁ := shown ++ .request .hideRoaming :: .settings (.tracing false) :: hidden
    let steps₂ := shown ++ .request .hideRoaming :: hidden
    views steps₁ (d₁, e₁) = views steps₂ (d₂, e₂) ∧
      (emitted steps₁ (d₁, e₁)).Sublist (emitted steps₂ (d₂, e₂)) ∧
      (run steps₁ (d₁, { e₁ with sink := .buffer (some 1) [] })).2.2.sink =
        .buffer (some 1) (Sink.keepLast (some 1) (emitted steps₁ (d₁, e₁))) ∧
      (emitted steps₁ (d₁, e₁)).length = 2 ∧ (emitted steps₂ (d₂, e₂)).length = 4 := by
  intro half d₁ d₂ e₁ e₂ shown hidden steps₁ steps₂
  have desks : d₁.Alike d₂ := rfl
  have host : e₁.SameHost e₂ := ⟨rfl, rfl⟩
  have same : steps₁.filter (!·.switches) = steps₂.filter (!·.switches) := rfl
  have sound (f : Fault) : Step.host (.fault .record f) ∉ steps₁ := by
    simp [steps₁, shown, hidden]
  obtain ⟨⟨hviews, -⟩, hshare, hbuffer⟩ :=
    tracing_unobserved desks host (by decide +kernel) rfl same rfl sound
  refine ⟨hviews, hshare rfl rfl rfl ?_, hbuffer (some 1), ?_, ?_⟩
  · simp [steps₂, shown, hidden]
  · decide +kernel
  · decide +kernel

end Desk

end TelephonyAlerts
