import TelephonyAlerts.Proofs.Run

/-!
# The history of what was blocked

The events of a medium are those that were reported since it was last cleared, as far as blocked
calls and messages were told of at the time, newest first.  Whether their alert could be made or
shown makes no difference, because an event is kept before anything can fail.
-/

namespace TelephonyAlerts

theorem Mask.mem_media {mask : Mask} {m : Medium} : m ∈ mask.media ↔ mask.selects m = true := by
  have hm : m ∈ [Medium.call, .message] := by cases m <;> decide
  rw [media, List.mem_filter]
  exact and_iff_right hm

namespace Desk

/-! ## 1. What steps report -/

def Step.tells (tells : Bool) : Step → Bool
  | .settings (.tellsBlocked b) => b
  | _ => tells

/-- Whether a step clears a medium.  What is no selection selects nothing. -/
def Step.clears (m : Medium) : Step → Bool
  | .request (.clearBlocked given) => (Mask.ofDatum given).toOption.any (·.selects m)
  | _ => false

/-- The event of a medium that a step reports; one without a number has an empty one. -/
def Step.event? (m : Medium) : Step → Option BlockedEvent
  | .request (.blocked m' number time matched) =>
    if m' = m then some ⟨number.getD "", time, matched⟩ else none
  | _ => none

/-- Each step with whether blocked calls and messages are told of when it is taken. -/
def marked : Bool → List Step → List (Bool × Step)
  | _, [] => []
  | tells, s :: rest => (tells, s) :: marked (s.tells tells) rest

/-- The events of a medium that were reported since it was last cleared, newest first. -/
def reported (m : Medium) (tells : Bool) (steps : List Step) : List BlockedEvent :=
  ((marked tells steps).reverse.takeWhile fun x => !x.2.clears m).filterMap fun x =>
    if x.1 then x.2.event? m else none

def Step.follow (m : Medium) (tells : Bool) (s : Step) (older : List BlockedEvent) :
    List BlockedEvent :=
  if s.clears m then [] else (if tells then s.event? m else none).toList ++ older

theorem marked_snoc (tells : Bool) (steps : List Step) (s : Step) :
    marked tells (steps ++ [s]) = marked tells steps ++ [(steps.foldl Step.tells tells, s)] := by
  induction steps generalizing tells with
  | nil => rfl
  | cons first rest ih =>
    rw [List.cons_append, marked, ih, marked, List.cons_append, List.foldl_cons]

theorem reported_snoc (m : Medium) (tells : Bool) (steps : List Step) (s : Step) :
    reported m tells (steps ++ [s]) =
      s.follow m (steps.foldl Step.tells tells) (reported m tells steps) := by
  unfold reported Step.follow
  rw [marked_snoc, List.reverse_append, List.reverse_singleton, List.singleton_append]
  by_cases hclears : s.clears m = true
  · rw [List.takeWhile_cons_of_neg (by simp [hclears]), if_pos hclears]
    rfl
  · rw [List.takeWhile_cons_of_pos (by simp [hclears]), if_neg hclears, List.filterMap_cons]
    cases (if steps.foldl Step.tells tells then s.event? m else none) <;> rfl

/-! ## 2. Steps -/

variable {d d' : Desk} {e e' : Session} {s : Step} {report : Report Unit} {m : Medium}

theorem Step.follow_of_unrelated {tells : Bool} {older : List BlockedEvent}
    (hclears : s.clears m = false) (hevent : s.event? m = none) :
    s.follow m tells older = older := by
  unfold Step.follow
  rw [hclears, hevent, if_neg Bool.false_ne_true, ite_self]
  rfl

theorem events_of_cleared {ms : List Medium} {h h' : History} {r : Except Failure Unit}
    {calls : List ShellCall} (cleared : Blocked.Cleared e ms h r calls h') (hr : r = .ok ()) :
    h'.events m = if m ∈ ms then [] else h.events m := by
  induction cleared with
  | done h => rfl
  | @next first ms h h' r calls rest ih =>
    rw [ih hr, History.events_clear]
    by_cases hfirst : first = m
    · simp [hfirst]
    · have hmem : m ∈ first :: ms ↔ m ∈ ms := by simp [Ne.symm hfirst]
      simp only [hmem, if_neg hfirst]
  | unrecorded _ _ _ _ => cases hr
  | uncancelled _ => cases hr

theorem history_of_does {request : Request} {r : Except Failure Unit} {calls : List ShellCall}
    (does : Does e d request r calls d')
    (cleared : ∀ given mask, request = .clearBlocked given → Mask.ofDatum given = .ok mask →
      r = .ok ()) :
    d'.history.events m =
      (Step.request request).follow m d.settings.tellsBlocked (d.history.events m) := by
  cases does with
  | @untold m' number time matched _ off =>
    rw [off]
    rfl
  | @told m' number time matched _ _ on _ =>
    rw [on]
    -- the event is kept however telling of it ends
    show (d.history.push m' (Blocked.event number time matched)).events m =
      (if m' = m then some (Blocked.event number time matched) else none).toList ++ _
    rw [History.events_push]
    split <;> rfl
  | @cleared given mask _ _ _ selected h =>
    have hmem : m ∈ mask.media ↔ mask.selects m = true := Mask.mem_media
    have hfollow : (Step.request (.clearBlocked given)).follow m d.settings.tellsBlocked
        (d.history.events m) = if mask.selects m then [] else d.history.events m := by
      simp only [Step.follow, Step.clears, Step.event?, ite_self, selected]
      rfl
    rw [hfollow]
    show History.events _ m = _
    rw [events_of_cleared h (cleared given mask rfl selected)]
    simp only [hmem]
  | @refused given cause refused =>
    have hclears : (Step.request (.clearBlocked given)).clears m = false := by
      rw [Step.clears, refused]
      rfl
    exact (Step.follow_of_unrelated hclears rfl).symm
  | refreshed _ again => cases again <;> exact (Step.follow_of_unrelated rfl rfl).symm
  | _ => exact (Step.follow_of_unrelated rfl rfl).symm

theorem history_of_takes (takes : Takes d e s report d' e')
    (cleared : ∀ given mask, s = .request (.clearBlocked given) → Mask.ofDatum given = .ok mask →
      report.result = .ok ()) :
    d'.history.events m = s.follow m d.settings.tellsBlocked (d.history.events m) := by
  cases takes with
  | request _ does =>
    exact history_of_does does fun given mask h => cleared given mask (congrArg Step.request h)
  | settings c => exact (Step.follow_of_unrelated rfl rfl).symm
  | host c => exact (Step.follow_of_unrelated rfl rfl).symm

theorem tellsBlocked_of_takes (takes : Takes d e s report d' e') :
    d'.settings.tellsBlocked = s.tells d.settings.tellsBlocked := by
  cases takes with
  | request _ does => rw [settings_of_does does]; rfl
  | settings c => cases c <;> rfl
  | host c => rfl

/-! ## 3. Runs -/

/-- Clearing what was blocked does not fail in a run, but for what is no selection. -/
def Clears (steps : List Step) (state : Desk × Session) : Prop :=
  ∀ x ∈ steps.zip (run steps state).1, ∀ given mask, x.1 = .request (.clearBlocked given) →
    Mask.ofDatum given = .ok mask → x.2.result = .ok ()

theorem run_length (steps : List Step) (state : Desk × Session) :
    (run steps state).1.length = steps.length := by
  induction steps generalizing state with
  | nil => rfl
  | cons s rest ih => rw [run, List.length_cons, List.length_cons, ih]

theorem clears_snoc {steps : List Step} {state : Desk × Session} :
    Clears (steps ++ [s]) state ↔ Clears steps state ∧ ∀ given mask,
      s = .request (.clearBlocked given) → Mask.ofDatum given = .ok mask →
        (s.op.report (run steps state).2).1.result = .ok () := by
  unfold Clears
  rw [run_snoc, List.zip_append (run_length steps state).symm]
  simp only [List.mem_append, or_imp, forall_and, List.zip_cons_cons, List.zip_nil_left,
    List.mem_singleton, forall_eq]

theorem history_of_run {state : Desk × Session} {steps : List Step} (clears : Clears steps state)
    (hnew : state.1.history.events m = []) :
    (run steps state).2.1.settings.tellsBlocked =
        steps.foldl Step.tells state.1.settings.tellsBlocked ∧
      (run steps state).2.1.history.events m =
        reported m state.1.settings.tellsBlocked steps := by
  induction steps using List.reverseRecOn with
  | nil => exact ⟨rfl, hnew⟩
  | append_singleton steps s ih =>
    obtain ⟨past, last⟩ := clears_snoc.1 clears
    obtain ⟨htells, hevents⟩ := ih past
    have htakes := takes (run steps state).2.1 (run steps state).2.2 s
    have hstep := history_of_takes (m := m) htakes last
    rw [run_snoc, List.foldl_append, reported_snoc, ← htells, ← hevents]
    exact ⟨tellsBlocked_of_takes htakes, hstep⟩

/-- What is kept of a medium, at a desk that was just made and after every run in which clearing
does not fail, is what was reported of it since it was last cleared.  What is no selection is
refused and clears nothing. -/
theorem blockedEvents_exact {s : Settings} {d : Desk} (made : ofSettings s = .ok d) (e : Session)
    {steps : List Step} (clears : Clears steps (d, e)) (m : Medium) :
    (run steps (d, e)).2.1.blockedEvents m.topic = .ok (reported m s.tellsBlocked steps) := by
  have hnew : d.settings = s ∧ d.history = {} := by
    unfold ofSettings at made
    cases hwording : s.wording with
    | error cause =>
      rw [hwording] at made
      cases made
    | ok wording =>
      rw [hwording] at made
      cases made
      exact ⟨rfl, rfl⟩
  have hempty : d.history.events m = [] := by
    rw [hnew.2]
    cases m <;> rfl
  have hrun := (history_of_run clears hempty).2
  rw [hnew.1] at hrun
  rw [blockedEvents, Blocked.mediumOf, Medium.medium?_topic, ← hrun]
  rfl

/-- The alert about a single blocked call cannot be made: its number is text. -/
def misworded : Settings := { strings := [("blacklist_call", "\x7bnumber:d\x7d")] }

/-- Of the calls since the first was cleared, the alert about one cannot be made, one is not told
of and the alert about one cannot be shown.  Clearing by a word is refused. -/
def troubled (t : Calendar.Moment) : List Step :=
  [.request (.blocked .call (some "1") t .list), .request (.clearBlocked (.int 1)),
    .request (.blocked .call (some "2") t .list), .settings (.tellsBlocked false),
    .request (.blocked .call (some "3") t .list), .settings (.tellsBlocked true),
    .host (.fault .present ⟨0, .collaborator .present⟩),
    .request (.blocked .call none t .hidden), .request (.clearBlocked (.int 2)),
    .request (.clearBlocked (.text "CALLS")), .request .showRoaming]

theorem blockedEvents_exact_troubled :
    let t := twoUsers.now
    let d : Desk := { settings := misworded, voiceCapable := true,
                      wording := ⟨[(.blacklistCall, "\x7bnumber:d\x7d")]⟩ }
    let state : Desk × Session := (d, { device := twoUsers })
    ofSettings misworded = .ok d ∧ Clears (troubled t) state ∧
      (run (troubled t) state).1.map (·.result.isOk) =
        [false, true, false, true, true, true, true, false, true, false, false] ∧
      (run (troubled t) state).2.1.blockedEvents Medium.call.topic =
        .ok [⟨"", t, .hidden⟩, ⟨"2", t, .list⟩] := by
  intro t d state
  have made : ofSettings misworded = .ok d := by decide +kernel
  have clears : Clears (troubled t) state := by
    intro x hx given mask hgiven hmask
    have hall : ((troubled t).zip (run (troubled t) state).1).all (fun x =>
        match x.1 with
        | .request (.clearBlocked given) => !(Mask.ofDatum given).isOk || x.2.result.isOk
        | _ => true) = true := by decide +kernel
    have hok := List.all_eq_true.1 hall x hx
    rw [hgiven] at hok
    change (!(Mask.ofDatum given).isOk || x.2.result.isOk) = true at hok
    rw [hmask] at hok
    exact eq_ok_of_isOk hok
  have events : reported .call misworded.tellsBlocked (troubled t) =
      [⟨"", t, .hidden⟩, ⟨"2", t, .list⟩] := by
    decide +kernel
  have ends : (run (troubled t) state).1.map (·.result.isOk) =
      [false, true, false, true, true, true, true, false, true, false, false] := by
    decide +kernel
  refine ⟨made, clears, ends, ?_⟩
  rw [blockedEvents_exact made _ clears, events]

end Desk

end TelephonyAlerts
