import Mathlib.Data.List.Forall2
import TelephonyAlerts.Proofs.BlockedHistory

/-!
# The alert for what was blocked

Whatever was entered and forgotten before, the alert of a medium is determined by the events since
it was last forgotten.  It counts and lists them where there are several, and offers to unblock a
number only if this is the number of them all and each matched a list entry.  Making the alert again
changes nothing and gives the one that was made when the newest event was entered.
-/

namespace TelephonyAlerts

open TelephonyAlerts.Template TelephonyAlerts.Calendar

/-! ## 1. What an alert tells -/

/-- The line about an event: its number, or the words for a hidden one, and its time of day, after
the day of the week unless it is dated today. -/
def BlockedEvent.Line (w : Wording) (now : Moment) (e : BlockedEvent) (line : String) : Prop :=
  ∃ identifier : String,
    (if e.number = "" then w.text .blacklistListPrivate = .ok identifier
      else identifier = e.number) ∧
    w.text .blacklistLine [("identifier", .text identifier.toList),
      ("time", .text ((if e.time.date = now.date then "" else e.time.date.weekdayName ++ " ") ++
        e.time.clockText).toList)] = .ok line

/-- A count and lines as an alert has them: neither for one event, both for several. -/
structure Grouped (w : Wording) (now : Moment) (events : List BlockedEvent) (count : Option Nat)
    (lines : List String) : Prop where
  uncounted : count = none ↔ events.length = 1
  unlisted : lines = [] ↔ events.length = 1
  counted : events.length ≠ 1 → count = some events.length ∧ lines.length = events.length
  listed : events.length ≠ 1 → List.Forall₂ (BlockedEvent.Line w now) events lines

/-- What the alert of a medium tells of its events. -/
structure Medium.Tells (w : Wording) (now : Moment) (m : Medium) (newest : BlockedEvent)
    (older : List BlockedEvent) (alert : Alert) : Prop where
  grouped : Grouped w now (newest :: older) alert.groupCount alert.lines
  enabled : alert.actionEnabled = true ↔
    ∀ e ∈ newest :: older, e.matched = .list ∧ e.number = newest.number
  /-- One event and several follow the same rule. -/
  ruled : alert.actionEnabled = canUnblock (newest :: older)
  offered : if alert.actionEnabled then ∃ label, w.text .unblockNumber = .ok label ∧
      alert.actions = [{ kind := .unblockNumber, label, target := some newest.number }]
    else alert.actions = []
  shownAt : alert.shownAt = some newest.time
  /-- Dismissing the alert clears its medium and no other. -/
  dismissed : ∃ name, alert.dismissAction = some { kind := .clearBlacklist, target := some name } ∧
    (∃ mask : Mask, mask.name? = some name) ∧
    ∀ mask : Mask, mask.name? = some name → mask.media = [m]

/-! ## 2. Reading an alert -/

theorem forall₂_of_mapM {ε α β : Type} {f : α → Except ε β} {xs : List α} {ys : List β}
    (h : xs.mapM f = .ok ys) : List.Forall₂ (fun x y => f x = .ok y) xs ys := by
  induction xs generalizing ys with
  | nil =>
    obtain rfl : [] = ys := Except.ok.inj h
    exact .nil
  | cons x xs ih =>
    rw [List.mapM_cons] at h
    obtain ⟨y, hy, h⟩ := bind_eq_ok h
    obtain ⟨rest, hrest, h⟩ := bind_eq_ok h
    obtain rfl : y :: rest = ys := Except.ok.inj h
    exact .cons hy (ih hrest)

theorem Mask.name?_inj {mask mask' : Mask} {name : String} (h : mask.name? = some name)
    (h' : mask'.name? = some name) : mask = mask' := by
  -- no name stands twice among the named selections
  have hnamed : ∀ x ∈ named, ∀ y ∈ named, x.2 = y.2 → x.1 = y.1 := by decide
  have hfound (mask : Mask) (h : mask.name? = some name) :
      ∃ x ∈ named, x.1 = mask.bits ∧ x.2 = name := by
    obtain ⟨x, hx, hname⟩ := Option.map_eq_some_iff.1 h
    exact ⟨x, List.mem_of_find?_eq_some hx, by simpa using List.find?_some hx, hname⟩
  obtain ⟨x, hx, hbits, hname⟩ := hfound mask h
  obtain ⟨y, hy, hbits', hname'⟩ := hfound mask' h'
  have hsame : x.1 = y.1 := hnamed x hx y hy (hname.trans hname'.symm)
  rw [hbits, hbits'] at hsame
  exact congrArg Mask.mk hsame

theorem Mask.name_ofTopic (m : Medium) : ∃ name, (ofTopic m.topic).name? = some name ∧
    ∀ mask : Mask, mask.name? = some name → mask.media = [m] := by
  have hnamed : ∃ name, (ofTopic m.topic).name? = some name := by cases m <;> exact ⟨_, rfl⟩
  obtain ⟨name, hname⟩ := hnamed
  refine ⟨name, hname, fun mask hmask => ?_⟩
  rw [name?_inj hmask hname, media_ofTopic]

theorem canUnblock_iff {newest : BlockedEvent} {older : List BlockedEvent} :
    canUnblock (newest :: older) = true ↔
      ∀ e ∈ newest :: older, e.matched = .list ∧ e.number = newest.number := by
  rw [canUnblock, List.all_eq_true]
  simp only [Bool.and_eq_true, beq_iff_eq, decide_eq_true_eq, and_comm]

section Summary

variable {w : Wording} {now : Moment} {m : Medium} {newest : BlockedEvent}
  {older : List BlockedEvent} {story : Medium.Story} {alert : Alert}

theorem shortText_eq (t now : Moment) : t.shortText now =
    (if t.date = now.date then "" else t.date.weekdayName ++ " ") ++ t.clockText := by
  unfold Moment.shortText
  split
  · rw [String.empty_append]
  · rfl

theorem line_of_eq_ok {e : BlockedEvent} {line : String} (h : e.line w now = .ok line) :
    e.Line w now line := by
  unfold BlockedEvent.line at h
  unfold BlockedEvent.Line
  rw [← shortText_eq]
  by_cases hnumber : e.number = ""
  · have hempty : e.number.isEmpty = true := String.isEmpty_iff.2 hnumber
    rw [if_pos hempty] at h
    simp only [if_pos hnumber]
    exact bind_eq_ok h
  · have hempty : ¬ e.number.isEmpty = true := fun h => hnumber (String.isEmpty_iff.1 h)
    rw [if_neg hempty] at h
    exact ⟨e.number, if_neg hnumber ▸ rfl, h⟩

theorem story_alone (h : m.story w now newest [] = .ok story) :
    story.groupCount = none ∧ story.lines = [] ∧ story.unblocks = canUnblock [newest] := by
  obtain ⟨body, -, h⟩ := bind_eq_ok h
  obtain rfl := Except.ok.inj h
  refine ⟨rfl, rfl, ?_⟩
  -- its own number is the only one there is
  simp [canUnblock]

theorem story_several {next : BlockedEvent} {rest : List BlockedEvent}
    (h : m.story w now newest (next :: rest) = .ok story) :
    story.groupCount = some (newest :: next :: rest).length ∧
      List.Forall₂ (BlockedEvent.Line w now) (newest :: next :: rest) story.lines ∧
      story.unblocks = canUnblock (newest :: next :: rest) := by
  obtain ⟨body, -, h⟩ := bind_eq_ok h
  obtain ⟨lines, hlines, h⟩ := bind_eq_ok h
  obtain rfl := Except.ok.inj h
  exact ⟨rfl, (forall₂_of_mapM hlines).imp fun _ _ => line_of_eq_ok, rfl⟩

theorem unblocks_of_story (h : m.story w now newest older = .ok story) :
    story.unblocks = canUnblock (newest :: older) := by
  cases older with
  | nil => exact (story_alone h).2.2
  | cons next rest => exact (story_several h).2.2

theorem grouped_of_story (h : m.story w now newest older = .ok story) :
    Grouped w now (newest :: older) story.groupCount story.lines := by
  cases older with
  | nil =>
    obtain ⟨hcount, hlines, -⟩ := story_alone h
    exact ⟨iff_of_true hcount rfl, iff_of_true hlines rfl, fun h => absurd rfl h,
      fun h => absurd rfl h⟩
  | cons next rest =>
    obtain ⟨hcount, hlines, -⟩ := story_several h
    have hlength : (newest :: next :: rest).length ≠ 1 := by simp
    have hcounted : story.groupCount ≠ none := by
      rw [hcount]
      exact Option.some_ne_none _
    have hlisted : story.lines ≠ [] := by
      intro h
      rw [h] at hlines
      cases hlines
    exact ⟨iff_of_false hcounted hlength, iff_of_false hlisted hlength,
      fun _ => ⟨hcount, hlines.length_eq.symm⟩, fun _ => hlines⟩

/-- The buttons of an alert that tells a story. -/
def Medium.Story.offers (w : Wording) (newest : BlockedEvent) (story : Medium.Story) :
    Except RenderError (List Action) :=
  if story.unblocks then
    (w.text .unblockNumber).map fun label =>
      [{ kind := .unblockNumber, label, target := some newest.number }]
  else .ok []

theorem summary_eq : m.summary w now newest older =
    (m.story w now newest older >>= fun story => story.offers w newest >>= fun actions =>
      w.text .blacklistTitle >>= fun title => .ok {
        address := { topic := m.topic }
        title
        body := story.body
        lines := story.lines
        groupCount := story.groupCount
        actionEnabled := story.unblocks
        contentAction := some { kind := .blacklistSettings }
        actions
        dismissAction := some { kind := .clearBlacklist, target := (Mask.ofTopic m.topic).name? }
        shownAt := some newest.time }) := by
  unfold Medium.summary Medium.Story.offers
  refine congrArg (m.story w now newest older >>= ·) (funext fun story => ?_)
  cases story.unblocks with
  | true => cases w.text .unblockNumber <;> rfl
  | false => rfl

theorem offers_eq_ok {actions : List Action} (h : story.offers w newest = .ok actions) :
    if story.unblocks then ∃ label, w.text .unblockNumber = .ok label ∧
        actions = [{ kind := .unblockNumber, label, target := some newest.number }]
      else actions = [] := by
  unfold Medium.Story.offers at h
  split at h
  · rename_i hunblocks
    rw [if_pos hunblocks]
    cases hlabel : w.text .unblockNumber with
    | error cause =>
      rw [hlabel] at h
      cases h
    | ok label =>
      rw [hlabel] at h
      exact ⟨label, rfl, (Except.ok.inj h).symm⟩
  · rename_i hunblocks
    rw [if_neg hunblocks]
    exact (Except.ok.inj h).symm

theorem tells_of_summary (h : m.summary w now newest older = .ok alert) :
    m.Tells w now newest older alert := by
  rw [summary_eq] at h
  obtain ⟨story, hstory, h⟩ := bind_eq_ok h
  obtain ⟨actions, hactions, h⟩ := bind_eq_ok h
  obtain ⟨title, -, h⟩ := bind_eq_ok h
  obtain rfl := Except.ok.inj h
  have hunblocks := unblocks_of_story hstory
  obtain ⟨name, hname, hmedia⟩ := Mask.name_ofTopic m
  exact {
    grouped := grouped_of_story hstory
    enabled := hunblocks ▸ canUnblock_iff
    ruled := hunblocks
    offered := offers_eq_ok hactions
    shownAt := rfl
    dismissed := ⟨name, by rw [hname], ⟨_, hname⟩, hmedia⟩ }

end Summary

/-! ## 3. Runs -/

namespace Blocked

/-- What can happen to what was blocked, and at its host. -/
inductive Step
  | enter (m : Medium) (number : Option String) (time : Moment) (matched : MatchKind)
  | forget (m : Medium)
  | current (m : Medium)
  | host (c : Session.Change)

/-- What a step leaves, whether or not it fails. -/
def take (w : Wording) (x : History × Session) : Step → History × Session
  | .enter m number time matched => (enter w m (event number time matched) x).2
  | .forget m => (forget m x).2
  | .current m => (current w m x).2
  | .host c => (Op.change c x).2

def run (w : Wording) (steps : List Step) (x : History × Session) : History × Session :=
  steps.foldl (take w) x

def Step.forgets (m : Medium) : Step → Bool
  | .forget m' => m' = m
  | _ => false

def Step.enters? (m : Medium) : Step → Option BlockedEvent
  | .enter m' number time matched => if m' = m then some (event number time matched) else none
  | _ => none

/-- The events of a medium that were entered since it was last forgotten, newest first. -/
def entered (m : Medium) (steps : List Step) : List BlockedEvent :=
  (steps.reverse.takeWhile fun s => !s.forgets m).filterMap (Step.enters? m)

variable {w : Wording} {m : Medium} {x : History × Session}

theorem entered_snoc (steps : List Step) (s : Step) : entered m (steps ++ [s]) =
    if s.forgets m then [] else (s.enters? m).toList ++ entered m steps := by
  unfold entered
  rw [List.reverse_append, List.reverse_singleton, List.singleton_append, List.takeWhile_cons]
  cases s.forgets m with
  | true => rfl
  | false =>
    simp only [Bool.not_false, if_true, List.filterMap_cons]
    cases s.enters? m <;> rfl

theorem enter_apply (e : BlockedEvent) : enter w m e x =
    ((m.summary w x.2.device.now e (x.1.events m)).mapError .render, x.1.push m e, x.2) := by
  simp [enter, Op.ofRender]

theorem current_apply : current w m x =
    ((x.1.summary? w x.2.device.now m).mapError .render, x) := by
  simp [current, Op.ofRender]

theorem forget_apply : forget m x = (.ok (x.1.events m).length, x.1.clear m, x.2) := rfl

theorem events_of_take (s : Step) : (take w x s).1.events m =
    if s.forgets m then [] else (s.enters? m).toList ++ x.1.events m := by
  cases s with
  | enter m' number time matched =>
    rw [take, enter_apply, History.events_push, Step.enters?]
    by_cases hm : m' = m <;> simp [hm, Step.forgets]
  | forget m' =>
    rw [take, forget_apply, History.events_clear]
    by_cases hm : m' = m <;> simp [hm, Step.forgets, Step.enters?]
  | current m' =>
    rw [take, current_apply]
    rfl
  | host c => rfl

theorem events_of_run (e : Session) (steps : List Step) :
    (run w steps ({}, e)).1.events m = entered m steps := by
  induction steps using List.reverseRecOn with
  | nil => cases m <;> rfl
  | append_singleton steps s ih =>
    rw [run, List.foldl_append, List.foldl_cons, List.foldl_nil, entered_snoc, ← ih]
    exact events_of_take s

theorem current_after_enter (e : BlockedEvent) :
    current w m (enter w m e x).2 = ((enter w m e x).1.map some, (enter w m e x).2) := by
  rw [enter_apply, current_apply]
  simp only [History.summary?, History.events_push, if_true]
  cases m.summary w x.2.device.now e (x.1.events m) <;> rfl

theorem tells_of_current {newest : BlockedEvent} {older : List BlockedEvent}
    (events : x.1.events m = newest :: older)
    (rendered : ∀ cause, (current w m x).1 ≠ .error (.render cause)) :
    ∃ alert, (current w m x).1 = .ok (some alert) ∧
      m.Tells w x.2.device.now newest older alert := by
  simp only [current_apply, History.summary?, events] at rendered ⊢
  cases hsummary : m.summary w x.2.device.now newest older with
  | error cause =>
    rw [hsummary] at rendered
    exact absurd rfl (rendered cause)
  | ok alert => exact ⟨alert, rfl, tells_of_summary hsummary⟩

/-- After every run the alert of a medium tells of the events that were entered since it was last
forgotten, where it can be rendered.  Entering an event makes the alert that is current from then
on, and making the current one changes nothing. -/
theorem tells_entered (w : Wording) (steps : List Step) (e : Session) (m : Medium) :
    let x := run w steps ({}, e)
    (∀ number time matched,
      let made := enter w m (event number time matched) x
      made.2 = (x.1.push m (event number time matched), x.2) ∧
        current w m made.2 = (made.1.map some, made.2)) ∧
    (current w m x).2 = x ∧
    x.1.events m = entered m steps ∧
    ∀ newest older, entered m steps = newest :: older →
      (∀ cause, (current w m x).1 ≠ .error (.render cause)) →
      ∃ alert, (current w m x).1 = .ok (some alert) ∧
        m.Tells w x.2.device.now newest older alert := by
  intro x
  have events : x.1.events m = entered m steps := events_of_run e steps
  refine ⟨fun number time matched => ⟨?_, current_after_enter _⟩, ?_, events, ?_⟩
  · rw [enter_apply]
  · rw [current_apply]
  · intro newest older hentered rendered
    exact tells_of_current (events.trans hentered) rendered

/-- A hidden caller stands between two calls from one number, of which the older is dated the day
before. -/
def mixed (t : Moment) : List Step :=
  let earlier : Moment := { t with date := { t.date with day := t.date.day - 1 } }
  [.enter .call (some "5550000") earlier .list, .forget .call,
    .enter .call (some "5551234") earlier .list, .current .call,
    .enter .message (some "5559999") t .regex, .host (.fault .present ⟨0, .collaborator .present⟩),
    .enter .call none t .hidden, .enter .call (some "5551234") t .list]

theorem tells_entered_mixed :
    let t : Moment := Desk.twoUsers.now
    let earlier : Moment := { t with date := { t.date with day := t.date.day - 1 } }
    let x := run {} (mixed t) ({}, { device := Desk.twoUsers })
    let newest : BlockedEvent := ⟨"5551234", t, .list⟩
    let older : List BlockedEvent := [⟨"", t, .hidden⟩, ⟨"5551234", earlier, .list⟩]
    entered .call (mixed t) = newest :: older ∧
      (∀ cause, (current {} .call x).1 ≠ .error (.render cause)) ∧
      ∃ alert, (current {} .call x).1 = .ok (some alert) ∧
        Medium.call.Tells {} x.2.device.now newest older alert ∧
        alert.lines = ["5551234  09:30", "Private number  09:30", "5551234  Tue 09:30"] ∧
        alert.actionEnabled = false := by
  intro t earlier x newest older
  have hentered : entered .call (mixed t) = newest :: older := by decide +kernel
  have told : (current {} .call x).1.toOption.map (·.map fun a => (a.lines, a.actionEnabled)) =
      some (some (["5551234  09:30", "Private number  09:30", "5551234  Tue 09:30"], false)) := by
    decide +kernel
  have rendered : ∀ cause, (current {} .call x).1 ≠ .error (.render cause) := by
    intro cause h
    rw [h] at told
    cases told
  have htells := (tells_entered {} (mixed t) { device := Desk.twoUsers } .call).2.2.2
  obtain ⟨alert, made, tells⟩ := htells newest older hentered rendered
  rw [made] at told
  obtain ⟨hlines, henabled⟩ := Prod.mk.inj (Option.some.inj (Option.some.inj told))
  exact ⟨hentered, rendered, alert, made, tells, hlines, henabled⟩

end Blocked

end TelephonyAlerts
