import Mathlib.Data.List.Induction
import TelephonyAlerts.Proofs.Request

/-!
# Runs

A run is followed through its steps.  A step is a request, which does what `Desk.Does` tells, or
a change of the settings or of the host, which makes no calls.
-/

namespace TelephonyAlerts

/-- A session as a step finds it, with nothing written in its journal. -/
def Session.blank (e : Session) : Session := { e with journal := {} }

theorem Session.faultless_apply {e : Session} {m : Method} {c : Session.Change}
    (h : e.faults m = none) (sound : ∀ f, c ≠ .fault m f) : (e.apply c).faults m = none := by
  cases c with
  | device c => exact h
  | noFaults => rfl
  | fault m' f =>
    have hm : m ≠ m' := by
      rintro rfl
      exact sound f rfl
    show (if m = m' then some f else e.faults m) = none
    rw [if_neg hm, h]

-- An operation finds a blank journal, and what it leaves there is reported.
theorem Op.report_apply {σ α : Type} (op : Op σ α) (s : σ) (e : Session) :
    op.report (s, e) =
      (⟨(op (s, e.blank)).1, (op (s, e.blank)).2.2.journal⟩, (op (s, e.blank)).2) :=
  rfl

namespace Desk

/-- What a step reports, and the desk and the session that it leaves. -/
inductive Takes (d : Desk) (e : Session) : Step → Report Unit → Desk → Session → Prop
  | request {r : Request} {report : Report Unit} {d' : Desk} {e' : Session}
      (after : e.blank.After report.journal.calls e')
      (does : Does e.blank d r report.result report.journal.calls d') :
      Takes d e (.request r) report d' e'
  | settings (c : Change) : Takes d e (.settings c) ⟨.ok (), {}⟩ (d.apply c) e.blank
  | host (c : Session.Change) : Takes d e (.host c) ⟨.ok (), {}⟩ d (e.blank.apply c)

theorem takes (d : Desk) (e : Session) (s : Step) :
    Takes d e s (s.op.report (d, e)).1 (s.op.report (d, e)).2.1 (s.op.report (d, e)).2.2 := by
  cases s with
  | request r =>
    obtain ⟨calls, after, does⟩ := perform_ends (d := d) (e := e.blank) r
    have hcalls : calls = ((perform r).report (d, e)).1.journal.calls := after.calls.symm
    subst hcalls
    exact .request after does
  | settings c => exact .settings c
  | host c =>
    have h : (Op.change c : Op Desk Unit).report (d, e) =
        (⟨.ok (), (e.blank.apply c).journal⟩, d, e.blank.apply c) := rfl
    have hjournal : (e.blank.apply c).journal = {} := by cases c <;> rfl
    show Takes d e (.host c) ((Op.change c).report (d, e)).1 _ _
    rw [h, hjournal]
    exact .host c

theorem report_does (request : Request) (state : Desk × Session) :
    Does state.2.blank state.1 request ((perform request).report state).1.result
      ((perform request).report state).1.journal.calls
      ((perform request).report state).2.1 := by
  cases takes state.1 state.2 (.request request) with
  | request _ does => exact does

-- Steps that come later start where those before them ended.
theorem run_append (past rest : List Step) (state : Desk × Session) :
    run (past ++ rest) state =
      ((run past state).1 ++ (run rest (run past state).2).1, (run rest (run past state).2).2) := by
  induction past generalizing state with
  | nil => rfl
  | cons first past ih =>
    rw [List.cons_append, run, run]
    simp only [ih, List.cons_append]

theorem run_snoc (steps : List Step) (s : Step) (state : Desk × Session) :
    run (steps ++ [s]) state =
      ((run steps state).1 ++ [(s.op.report (run steps state).2).1],
        (s.op.report (run steps state).2).2) :=
  run_append steps [s] state

/-- What holds at first and is kept by every step of a run holds after the run. -/
theorem run_induction {I : List (Report Unit) → Desk → Session → Prop} {steps : List Step}
    {d : Desk} {e : Session} (first : I [] d e)
    (next : ∀ reports d e s report d' e', s ∈ steps → I reports d e → Takes d e s report d' e' →
      I (reports ++ [report]) d' e') :
    I (run steps (d, e)).1 (run steps (d, e)).2.1 (run steps (d, e)).2.2 := by
  induction steps using List.reverseRecOn with
  | nil => exact first
  | append_singleton steps s ih =>
    rw [run_snoc]
    have h := ih fun reports d e s report d' e' hs =>
      next reports d e s report d' e' (List.mem_append_left _ hs)
    exact next _ _ _ s _ _ _ (List.mem_append_right _ List.mem_cons_self) h (takes _ _ s)

theorem wording_of_takes {d d' : Desk} {e e' : Session} {s : Step} {report : Report Unit}
    (takes : Takes d e s report d' e') : d'.wording = d.wording := by
  cases takes with
  | request _ does => exact wording_of_does does
  | settings c => rfl
  | host c => rfl

theorem run_wording (steps : List Step) (d : Desk) (e : Session) :
    (run steps (d, e)).2.1.wording = d.wording :=
  run_induction (I := fun _ d' _ => d'.wording = d.wording) rfl
    fun _ _ _ _ _ _ _ _ h takes => (wording_of_takes takes).trans h

-- A desk that is made from settings remembers nothing yet.
theorem eq_of_ofSettings {s : Settings} {d : Desk} (made : ofSettings s = .ok d) :
    ∃ wording, s.wording = .ok wording ∧
      d = { settings := s, voiceCapable := s.voiceCapable, wording } := by
  unfold ofSettings at made
  cases hwording : s.wording with
  | error cause =>
    rw [hwording] at made
    cases made
  | ok wording =>
    rw [hwording] at made
    exact ⟨wording, rfl, (Except.ok.inj made).symm⟩

/-- A desk that remembers nothing. -/
def fresh : Desk := { settings := {}, voiceCapable := true, wording := {} }

/-- A device with two users, whose directory answers for line 5 with line 6. -/
def twoUsers : Device where
  now :=
    { date := ⟨2024, 5, 1⟩, hour := 9, minute := 30, second := 0, microsecond := 0, offset := none }
  lines := [(5, { id := 6, name := "Home" })]
  preferences := [("network_selection_name_key5", "Operator X")]
  profiles := [{ handle := 0, isOwner := true }, { handle := 10 }]
  defaultLine := 5

end Desk

end TelephonyAlerts
