import TelephonyAlerts.Desk.Registry
import TelephonyAlerts.Proofs.Run

/-!
# The desk in office

The desk in office is the one made by the first request for a desk that succeeded since the last
release.  A request while there is none makes one or fails and leaves none.  Any other request gets
the desk that there is, as its own steps have left it, and one critical row is written; the settings
that come with the request make no difference.
-/

namespace TelephonyAlerts

/-! ## 1. New desks -/

/-- A desk as it is made from settings: it remembers nothing. -/
structure Desk.New (s : Settings) (d : Desk) : Prop where
  settings : d.settings = s
  voiceCapable : d.voiceCapable = s.voiceCapable
  wording : s.wording = .ok d.wording
  history : ∀ m, d.history.events m = []
  voicemail : ∀ line, d.showsVoicemail line = false
  forwarding : ∀ line, d.showsForwarding line = false
  operator : d.operatorShown = false

theorem Desk.new_of_ofSettings {s : Settings} {d : Desk} (made : ofSettings s = .ok d) :
    d.New s := by
  obtain ⟨wording, hwording, rfl⟩ := eq_of_ofSettings made
  exact {
    settings := rfl
    voiceCapable := rfl
    wording := hwording
    history := fun m => by cases m <;> rfl
    voicemail := fun _ => rfl
    forwarding := fun _ => rfl
    operator := rfl }

namespace Registry

/-! ## 2. Runs -/

/-- What can happen at a registry: a desk is asked for or given up, one of the desks takes a step,
whether or not it is in office, or the host changes. -/
inductive Step
  | obtain (designation : String) (s : Settings)
  | release
  | on (k : Nat) (s : Desk.Step)
  | host (c : Session.Change)

/-- A request for a desk is answered with its number. -/
def Step.op : Step → Op Registry (Option Nat)
  | .obtain designation s => do return some (← Registry.obtain designation s)
  | .release => do
    Registry.release
    return none
  | .on k s => do
    let _ ← Registry.on k s.op
    return none
  | .host c => do
    Op.change c
    return none

/-- A step that was taken, and its report. -/
abbrev Event := Step × Report (Option Nat)

def take (x : List Event × (Registry × Session)) (s : Step) : List Event × (Registry × Session) :=
  let (report, state) := s.op.report x.2
  (x.1 ++ [(s, report)], state)

/-- The events of a run that starts with no desk, and the state in which it ends. -/
def run (steps : List Step) (e : Session) : List Event × (Registry × Session) :=
  steps.foldl take ([], {}, e)

/-! ## 3. Tenures -/

/-- A desk's time in office: its number, the settings that it was made from, and the steps that it
took since. -/
structure Tenure where
  number : Nat
  settings : Settings
  steps : List Desk.Step := []

/-- The tenure that a request for a desk begins where it succeeds and none lasts. -/
def Event.begins? (x : Event) : Option Tenure :=
  match x.1, x.2.result with
  | .obtain _ settings, .ok (some number) => some { number, settings }
  | _, _ => none

def Step.releases : Step → Bool
  | .release => true
  | _ => false

/-- The step that the desk of a number takes. -/
def Step.of? (number : Nat) : Step → Option Desk.Step
  | .on k s => if k = number then some s else none
  | _ => none

/-- The tenure that the first request for a desk begins that succeeds. -/
def firstTenure? : List Event → Option Tenure
  | [] => none
  | x :: rest =>
    match x.begins? with
    | some t => some { t with steps := rest.filterMap fun x => x.1.of? t.number }
    | none => firstTenure? rest

/-- The tenure that lasts after some events. -/
def tenure? (past : List Event) : Option Tenure :=
  firstTenure? (past.reverse.takeWhile fun x => !x.1.releases).reverse

/-- A desk that was reached from another by its own steps, at whatever sessions. -/
inductive Comes (first : Desk) : List Desk.Step → Desk → Prop
  | start : Comes first [] first
  | step {steps : List Desk.Step} {d : Desk} (comes : Comes first steps d) (e : Session)
      (s : Desk.Step) : Comes first (steps ++ [s]) (s.op.report (d, e)).2.1

def Tenure.after (s : Step) (t : Tenure) : Tenure :=
  { t with steps := t.steps ++ (s.of? t.number).toList }

theorem begins?_steps {x : Event} {t : Tenure} (h : x.begins? = some t) : t.steps = [] := by
  unfold Event.begins? at h
  split at h
  · obtain rfl := Option.some.inj h
    rfl
  · cases h

theorem firstTenure?_snoc (events : List Event) (x : Event) : firstTenure? (events ++ [x]) =
    match firstTenure? events with
    | some t => some (t.after x.1)
    | none => x.begins? := by
  induction events with
  | nil =>
    simp only [List.nil_append, firstTenure?]
    cases hbegins : x.begins? with
    | none => rfl
    | some t => exact congrArg (fun steps => some { t with steps }) (begins?_steps hbegins).symm
  | cons y rest ih =>
    rw [List.cons_append, firstTenure?, firstTenure?]
    cases y.begins? with
    | none => exact ih
    | some t =>
      have hsteps : (rest ++ [x]).filterMap (fun x => x.1.of? t.number) =
          rest.filterMap (fun x => x.1.of? t.number) ++ (x.1.of? t.number).toList := by
        rw [List.filterMap_append, List.filterMap_cons]
        cases x.1.of? t.number <;> rfl
      exact congrArg (fun steps => some { t with steps }) hsteps

theorem tenure?_snoc (past : List Event) (x : Event) : tenure? (past ++ [x]) =
    if x.1.releases then none else
      match tenure? past with
      | some t => some (t.after x.1)
      | none => x.begins? := by
  unfold tenure?
  rw [List.reverse_append, List.reverse_singleton, List.singleton_append, List.takeWhile_cons]
  cases x.1.releases with
  | true => rfl
  | false =>
    rw [if_pos Bool.not_false, if_neg Bool.false_ne_true, List.reverse_cons, firstTenure?_snoc]

/-! ## 4. Steps -/

variable {r : Registry} {e : Session}

theorem obtain_apply (designation : String) (s : Settings) : obtain designation s (r, e) =
    match r.current with
    | some k => (.ok k, r, { e with journal := { e.journal with
        rows := e.journal.rows ++ [⟨.critical, .desk, secondDesk designation⟩] } })
    | none => match Desk.ofSettings s with
      | .error cause => (.error (.ofWording cause), r, e)
      | .ok d => (.ok r.desks.length, ⟨r.desks ++ [d], some r.desks.length⟩, e) := by
  unfold obtain
  simp only [Op.bind_apply, Op.own_apply]
  cases r.current with
  | some k => rfl
  | none =>
    simp only [Op.bind_apply, Op.ofExcept_apply]
    cases Desk.ofSettings s <;> rfl

theorem current_of_on {α : Type} (k : Nat) (op : Op Desk α) :
    (on k op (r, e)).2.1.current = r.current := by
  unfold on
  dsimp only
  cases r.desks[k]? <;> rfl

theorem length_of_on {α : Type} (k : Nat) (op : Op Desk α) :
    (on k op (r, e)).2.1.desks.length = r.desks.length := by
  unfold on
  dsimp only
  cases r.desks[k]? with
  | none => rfl
  | some d => exact List.length_set

theorem desks_of_on {α : Type} (k j : Nat) (op : Op Desk α) : (on k op (r, e)).2.1.desks[j]? =
    if k = j then r.desks[j]?.map fun d => (op (d, e)).2.1 else r.desks[j]? := by
  unfold on
  dsimp only
  cases hd : r.desks[k]? with
  | none =>
    by_cases hk : k = j
    · rw [← hk, if_pos rfl, hd]
      rfl
    · rw [if_neg hk]
  | some d =>
    show (r.desks.set k _)[j]? = _
    by_cases hk : k = j
    · obtain ⟨hlt, -⟩ := List.getElem?_eq_some_iff.1 hd
      rw [← hk, hd, if_pos rfl, List.getElem?_set_self hlt]
      rfl
    · rw [if_neg hk, List.getElem?_set_ne hk]

/-- A tenure as the registry shows it: its desk is in office, made from its settings and reached by
its steps. -/
inductive Shows (r : Registry) : Option Tenure → Prop
  | vacant (current : r.current = none) : Shows r none
  | held {t : Tenure} {first d : Desk} (current : r.current = some t.number)
      (made : Desk.ofSettings t.settings = .ok first) (comes : Comes first t.steps d)
      (desk : r.desks[t.number]? = some d) : Shows r (some t)

-- An operation whose answer is put into another form reports what it did.
theorem report_answer {α β : Type} (op : Op Registry α) (f : α → β) (x : Registry × Session) :
    (op >>= fun a => pure (f a)).report x =
      (⟨(op.report x).1.result.map f, (op.report x).1.journal⟩, (op.report x).2) := by
  unfold Op.report
  rw [Op.bind_apply]
  rcases op (x.1, { x.2 with journal := {} }) with ⟨_ | _, _⟩ <;> rfl

theorem report_held {k : Nat} (current : r.current = some k) (designation : String) (s : Settings) :
    (obtain designation s).report (r, e) =
      (⟨.ok k, { rows := [⟨.critical, .desk, secondDesk designation⟩] }⟩, r,
        { e with journal := { rows := [⟨.critical, .desk, secondDesk designation⟩] } }) := by
  rw [Op.report_apply, obtain_apply, current]
  rfl

theorem report_refused (current : r.current = none) (designation : String) {s : Settings}
    {cause : WordingError} (refused : Desk.ofSettings s = .error cause) :
    (obtain designation s).report (r, e) = (⟨.error (.ofWording cause), {}⟩, r, e.blank) := by
  rw [Op.report_apply, obtain_apply, current, refused]
  rfl

theorem report_made (current : r.current = none) (designation : String) {s : Settings} {d : Desk}
    (made : Desk.ofSettings s = .ok d) : (obtain designation s).report (r, e) =
      (⟨.ok r.desks.length, {}⟩, ⟨r.desks ++ [d], some r.desks.length⟩, e.blank) := by
  rw [Op.report_apply, obtain_apply, current, made]
  rfl

theorem after_of_other {s : Step} {t : Tenure} (h : s.of? t.number = none) : t.after s = t := by
  rw [Tenure.after, h, Option.toList_none, List.append_nil]

/-- The registry after some events: it shows the tenure that lasts, and all numbers that were
answered are those of desks. -/
structure Follows (past : List Event) (r : Registry) : Prop where
  shows : Shows r (tenure? past)
  answered : ∀ x ∈ past, ∀ t, x.begins? = some t → t.number < r.desks.length

theorem Follows.snoc {past : List Event} {x : Event} {r' : Registry} (follows : Follows past r)
    (shows : Shows r' (tenure? (past ++ [x]))) (grows : r.desks.length ≤ r'.desks.length)
    (answers : ∀ t, x.begins? = some t → t.number < r'.desks.length) :
    Follows (past ++ [x]) r' := by
  refine ⟨shows, fun y hy t ht => ?_⟩
  rcases List.mem_append.1 hy with hpast | hlast
  · exact Nat.lt_of_lt_of_le (follows.answered y hpast t ht) grows
  · obtain rfl := List.mem_singleton.1 hlast
    exact answers t ht

theorem follows_obtain {past : List Event} (follows : Follows past r) (designation : String)
    (s : Settings) : Follows
      (past ++ [(.obtain designation s, ((Step.obtain designation s).op.report (r, e)).1)])
      ((Step.obtain designation s).op.report (r, e)).2.1 := by
  have hshows := follows.shows
  rw [Step.op, report_answer]
  cases htenure : tenure? past with
  | none =>
    rw [htenure] at hshows
    obtain ⟨current⟩ := hshows
    cases hmade : Desk.ofSettings s with
    | error cause =>
      rw [report_refused current designation hmade]
      refine follows.snoc ?_ (Nat.le_refl _) nofun
      rw [tenure?_snoc, htenure]
      exact .vacant current
    | ok d =>
      rw [report_made current designation hmade]
      have hlast : (r.desks ++ [d])[r.desks.length]? = some d := List.getElem?_concat_length
      refine follows.snoc ?_ (by simp) ?_
      · rw [tenure?_snoc, htenure]
        exact .held rfl hmade .start hlast
      · intro t ht
        obtain rfl := Option.some.inj ht
        simp
  | some t =>
    rw [htenure] at hshows
    cases hshows with
    | held current made comes desk =>
      rw [report_held current]
      refine follows.snoc ?_ (Nat.le_refl _) ?_
      · rw [tenure?_snoc, htenure]
        show Shows r (some (t.after _))
        rw [after_of_other rfl]
        exact .held current made comes desk
      · intro t' ht
        obtain rfl := Option.some.inj ht
        exact (List.getElem?_eq_some_iff.1 desk).1

theorem follows_on {past : List Event} (follows : Follows past r) (k : Nat) (s : Desk.Step) :
    Follows (past ++ [(.on k s, ((Step.on k s).op.report (r, e)).1)])
      ((Step.on k s).op.report (r, e)).2.1 := by
  have hshows := follows.shows
  have hcurrent := current_of_on (r := r) (e := e.blank) k s.op
  rw [Step.op, report_answer]
  refine follows.snoc ?_ (Nat.le_of_eq (length_of_on k s.op).symm) nofun
  rw [tenure?_snoc]
  cases htenure : tenure? past with
  | none =>
    rw [htenure] at hshows
    obtain ⟨current⟩ := hshows
    exact .vacant (hcurrent.trans current)
  | some t =>
    rw [htenure] at hshows
    cases hshows with
    | held current made comes desk =>
      have hdesk := desks_of_on (r := r) (e := e.blank) k t.number s.op
      rw [desk] at hdesk
      show Shows _ (some (t.after (.on k s)))
      by_cases hk : k = t.number
      · have hafter : t.after (.on k s) = { t with steps := t.steps ++ [s] } := by
          rw [Tenure.after, Step.of?, if_pos hk, Option.toList_some]
        rw [if_pos hk] at hdesk
        rw [hafter]
        exact .held (hcurrent.trans current) made (comes.step e.blank s) hdesk
      · have hother : (Step.on k s).of? t.number = none := if_neg hk
        rw [if_neg hk] at hdesk
        rw [after_of_other hother]
        exact .held (hcurrent.trans current) made comes hdesk

theorem follows_host {past : List Event} (follows : Follows past r) (c : Session.Change) :
    Follows (past ++ [(.host c, ((Step.host c).op.report (r, e)).1)])
      ((Step.host c).op.report (r, e)).2.1 := by
  have hshows := follows.shows
  refine follows.snoc ?_ (Nat.le_refl _) nofun
  rw [tenure?_snoc]
  cases htenure : tenure? past with
  | none =>
    rw [htenure] at hshows
    exact hshows
  | some t =>
    rw [htenure] at hshows
    show Shows r (some (t.after (.host c)))
    rwa [after_of_other rfl]

theorem follows_release {past : List Event} (follows : Follows past r) :
    Follows (past ++ [(.release, (Step.release.op.report (r, e)).1)])
      (Step.release.op.report (r, e)).2.1 := by
  refine follows.snoc ?_ (Nat.le_refl _) nofun
  rw [tenure?_snoc]
  exact .vacant rfl

theorem run_snoc (steps : List Step) (s : Step) : run (steps ++ [s]) e =
    ((run steps e).1 ++ [(s, (s.op.report (run steps e).2).1)],
      (s.op.report (run steps e).2).2) := by
  rw [run, List.foldl_append]
  rfl

theorem follows_run (steps : List Step) (e : Session) :
    Follows (run steps e).1 (run steps e).2.1 := by
  induction steps using List.reverseRecOn with
  | nil => exact ⟨.vacant rfl, fun x hx => absurd hx List.not_mem_nil⟩
  | append_singleton steps s ih =>
    rw [run_snoc]
    cases s with
    | obtain designation s => exact follows_obtain ih designation s
    | release => exact follows_release ih
    | on k s => exact follows_on ih k s
    | host c => exact follows_host ih c

/-! ## 5. Requests for a desk -/

/-- A request for a desk makes one where none was made since the last release: a new desk, or an
error that leaves none.  Otherwise it is answered with the one that there is, as its own steps have
left it, and nothing is done but to write one critical row. -/
theorem obtain_answers (steps : List Step) (e : Session) (designation : String) (s : Settings) :
    let past := (run steps e).1
    let r := (run steps e).2.1
    let answer := (obtain designation s).report (run steps e).2
    let next := tenure? (run (steps ++ [.obtain designation s]) e).1
    match tenure? past, Desk.ofSettings s with
    | none, .error cause =>
      r.current = none ∧ answer.1 = ⟨.error (.ofWording cause), {}⟩ ∧ answer.2.1 = r ∧ next = none
    | none, .ok d =>
      d.New s ∧ answer.1 = ⟨.ok r.desks.length, {}⟩ ∧
        answer.2.1 = ⟨r.desks ++ [d], some r.desks.length⟩ ∧
        (∀ x ∈ past, ∀ t, x.begins? = some t → t.number ≠ r.desks.length) ∧
        next = some { number := r.desks.length, settings := s }
    | some t, _ => ∃ first d, Desk.ofSettings t.settings = .ok first ∧ first.New t.settings ∧
        Comes first t.steps d ∧ r.current = some t.number ∧ r.desks[t.number]? = some d ∧
        answer.1 = ⟨.ok t.number, { rows := [⟨.critical, .desk, secondDesk designation⟩] }⟩ ∧
        answer.2.1 = r ∧ next = some t := by
  intro past r answer next
  have follows : Follows past r := follows_run steps e
  have hshows := follows.shows
  have hnext : next = tenure? (past ++
      [(.obtain designation s, ⟨answer.1.result.map some, answer.1.journal⟩)]) := by
    show tenure? _ = _
    rw [run_snoc, Step.op, report_answer]
  rw [tenure?_snoc] at hnext
  cases htenure : tenure? past with
  | none =>
    rw [htenure] at hshows hnext
    obtain ⟨current⟩ := hshows
    cases hmade : Desk.ofSettings s with
    | error cause =>
      have hanswer : answer = _ := report_refused current designation hmade
      rw [hanswer] at hnext ⊢
      exact ⟨current, rfl, rfl, hnext⟩
    | ok d =>
      have hanswer : answer = _ := report_made current designation hmade
      rw [hanswer] at hnext ⊢
      have hnew (x : Event) (hx : x ∈ past) (t : Tenure) (ht : x.begins? = some t) :
          t.number ≠ r.desks.length := Nat.ne_of_lt (follows.answered x hx t ht)
      exact ⟨Desk.new_of_ofSettings hmade, rfl, rfl, hnew, hnext⟩
  | some t =>
    rw [htenure] at hshows hnext
    cases hshows with
    | @held _ first d current made comes desk =>
      have hanswer : answer = _ := report_held current designation s
      have hkept : next = some t := hnext.trans (congrArg some (after_of_other rfl))
      rw [hanswer]
      exact ⟨first, d, made, Desk.new_of_ofSettings made, comes, current, desk, rfl, rfl, hkept⟩

example :
    let refused : Settings := { strings := [("blacklist_call", "\x7bcaller\x7d")] }
    (run [.obtain "-" refused, .obtain "-" {}, .on 0 (.request .showRoaming), .obtain "-" refused,
        .release, .obtain "-" refused, .obtain "-" {}] { device := Desk.twoUsers }).1.map
        (·.2.result.toOption) =
      [none, some (some 0), some none, some (some 0), some none, none, some (some 1)] := by
  decide +kernel

end Registry

end TelephonyAlerts
