import TelephonyAlerts.Proofs.Sampling
import TelephonyAlerts.Proofs.Screen

/-!
# What records tell

Where every decision is recorded, the records of a step tell all that it shows and cancels, in
order.  Between an alert that was shown and its record there are deeds still to be told, so an
operation is described by the deeds that are to be told where it starts: where it ends there are
none.  Replaying records instead of calls then leaves the same alerts before the same users.
-/

namespace TelephonyAlerts

/-! ## 1. Deeds -/

/-- What a call does to the alert at an address. -/
inductive Deed
  | shows (a : Address) (user : Int)
  | hides (a : Address) (user : Int)
  deriving DecidableEq, Repr

def ShellCall.deed? : ShellCall → Option Deed
  | .present a _ user => some (.shows a user)
  | .cancel a user => some (.hides a user)
  | .showTransient _ | .cancelTransient => none

/-- The alerts of a topic belong to lines. -/
def Topic.perLine : Topic → Bool
  | .voicemail | .callForward => true
  | _ => false

namespace Decision

/-- The address of the alert that a decision is about. -/
def address (d : Decision) : Address := ⟨d.topic, if d.topic.perLine then d.line else none⟩

/-- The deeds that a decision stands for. -/
def deeds (d : Decision) : List Deed :=
  match d.outcome with
  | .presented => d.recipients.map (.shows d.address)
  | .cancelled => [.hides d.address allUsers]
  | .skipped | .deferred => []

end Decision

/-- The records of a journal, all of one time, tell what its calls show and cancel. -/
def Journal.Faithful (now : Calendar.Moment) (j : Journal) : Prop :=
  j.calls.filterMap ShellCall.deed? = j.records.flatMap (·.decision.deeds) ∧
    ∀ r ∈ j.records, r.time = now

theorem Journal.faithful_blank (now : Calendar.Moment) : ({} : Journal).Faithful now :=
  ⟨rfl, fun _ h => absurd h List.not_mem_nil⟩

/-! ## 2. What is still to be told -/

namespace Session

/-- Records go to a callback, and neither recording nor showing or cancelling an alert fails. -/
structure Open (e : Session) : Prop where
  sink : e.sink = .callback
  shows : e.faults .present = none
  cancels : e.faults .cancel = none
  records : e.faults .record = none

/-- Some deeds at the end of the journal are not recorded yet. -/
structure Owes (e : Session) (pending : List Deed) : Prop extends Open e where
  balance : e.journal.calls.filterMap ShellCall.deed? =
    e.journal.records.flatMap (·.decision.deeds) ++ pending
  times : ∀ r ∈ e.journal.records, r.time = e.device.now

variable {e : Session} {pending : List Deed}

theorem Owes.faithful (h : e.Owes []) : e.journal.Faithful e.device.now := by
  refine ⟨?_, h.times⟩
  rw [h.balance, List.append_nil]

theorem Open.of_same {e' : Session} (h : e.Open) (hsink : e'.sink = e.sink)
    (hfaults : e'.faults = e.faults) : e'.Open := by
  constructor <;> simp only [hsink, hfaults, h.sink, h.shows, h.cancels, h.records]

theorem Open.blank (h : e.Open) : e.blank.Owes [] where
  toOpen := h.of_same rfl rfl
  balance := rfl
  times _ h := absurd h List.not_mem_nil

-- A call that is not noted makes a failure come nearer at most.
theorem Owes.call (h : e.Owes pending) (m : Method) : (e.call m).2.Owes pending := by
  have after := e.call_after m
  have hkept : (e.call m).2.sink = e.sink ∧ (e.call m).2.journal = e.journal := by
    unfold Session.call
    split
    · exact ⟨rfl, rfl⟩
    · split <;> exact ⟨rfl, rfl⟩
  refine ⟨⟨hkept.1.trans h.sink, after.faultless h.shows, after.faultless h.cancels,
    after.faultless h.records⟩, ?_, ?_⟩
  · rw [hkept.2]
    exact h.balance
  · rw [hkept.2, after.device]
    exact h.times

theorem Owes.note (h : e.Owes pending) {c : ShellCall} {deed : Deed} (hc : c.deed? = some deed) :
    { e with journal := { e.journal with calls := e.journal.calls ++ [c] } }.Owes
      (pending ++ [deed]) where
  toOpen := h.toOpen.of_same rfl rfl
  balance := by
    have hdeed : [c].filterMap ShellCall.deed? = [deed] := by rw [List.filterMap_cons_some hc]; rfl
    show (e.journal.calls ++ [c]).filterMap ShellCall.deed? = _
    rw [List.filterMap_append, h.balance, hdeed, List.append_assoc]
  times := h.times

theorem Owes.log (h : e.Owes pending) (row : LogRow) :
    { e with journal := { e.journal with rows := e.journal.rows ++ [row] } }.Owes pending :=
  ⟨h.toOpen.of_same rfl rfl, h.balance, h.times⟩

-- A record tells the deeds that it stands for.
theorem Owes.record (h : e.Owes pending) {d : Decision} (hd : d.deeds = pending) :
    (e.record .always d).2.Owes [] := by
  have hrecord : (e.record .always d).2 = { e with
      journal := { e.journal with records := e.journal.records ++ [⟨d, e.device.now⟩] } } := by
    obtain ⟨device, faults, draws, sink, journal⟩ := e
    obtain rfl : sink = .callback := h.sink
    exact congrArg Prod.snd (emit_eq_withTrace h.records ⟨d, device.now⟩)
  rw [hrecord]
  refine ⟨h.toOpen.of_same rfl rfl, ?_, ?_⟩
  · show e.journal.calls.filterMap ShellCall.deed? =
      (e.journal.records ++ [(⟨d, e.device.now⟩ : Record)]).flatMap (·.decision.deeds) ++ []
    rw [h.balance, List.flatMap_append, List.flatMap_singleton, hd, List.append_nil]
  · intro r hr
    rcases List.mem_append.1 hr with hr | hr
    · exact h.times r hr
    · rw [List.mem_singleton.1 hr]

end Session

/-! ## 3. Operations that leave nothing to be told -/

namespace Op

variable {σ τ α β : Type} {pending : List Deed}

/-- Where the given deeds are to be told, the operation tells them, and its own. -/
def Tells (pending : List Deed) (op : Op σ α) : Prop :=
  ∀ s e, e.Owes pending → op.Ends s e fun _ _ e' => e'.Owes []

theorem Tells.pure (a : α) : Tells [] (Pure.pure a : Op σ α) := fun _ _ he => he

theorem Tells.own : Tells [] (own : Op σ σ) := fun _ _ he => he

theorem Tells.device : Tells [] (device : Op σ Device) := fun _ _ he => he

theorem Tells.modifyOwn (f : σ → σ) : Tells [] (modifyOwn f : Op σ Unit) := fun _ _ he => he

theorem Tells.log (level : Level) (source : Source) (text : String) :
    Tells [] (log level source text : Op σ Unit) :=
  fun _ _ he => he.log ⟨level, source, text⟩

theorem Tells.call (m : Method) : Tells [] (call m : Op σ Unit) := by
  intro s e he
  unfold Ends
  rw [call_apply]
  exact he.call m

theorem Tells.ofExcept {ε : Type} (failure : ε → Failure) (r : Except ε α) :
    Tells [] (ofExcept failure r : Op σ α) := by
  intro s e he
  unfold Ends
  rw [ofExcept_apply]
  exact he

theorem Tells.bind {op : Op σ α} {k : α → Op σ β} (h : Tells [] op) (hk : ∀ a, Tells [] (k a)) :
    Tells [] (op >>= k) :=
  fun s e he => (h s e he).bind (fun a s' e' he' => hk a s' e' he') fun _ _ _ he' => he'

theorem Tells.answer {ε : Type} (m : Method) (failure : ε → Failure)
    (answer : Device → Except ε α) :
    Tells [] (Op.call m >>= fun _ => Op.device >>= fun d => Op.ofExcept failure (answer d) :
      Op σ α) :=
  .bind (.call m) fun _ => .bind .device fun _ => .ofExcept _ _

theorem Tells.resolving {op : Op σ α} (h : Tells [] op) : Tells [] (resolving op) :=
  fun s e he => (resolving_ends (h s e he)).mono fun _ _ _ ⟨_, he', _⟩ => he'

theorem Tells.forM {op : α → Op σ Unit} (h : ∀ a, Tells [] (op a)) :
    ∀ l : List α, Tells [] (l.forM op)
  | [] => .pure _
  | a :: rest => .bind (h a) fun _ => forM h rest

theorem Tells.within {part : τ → σ} {setPart : σ → τ → τ} {op : Op σ α} (h : Tells [] op) :
    Tells [] (within part setPart op) :=
  fun t e he => h (part t) e he

theorem Tells.modifying {f : σ → σ} {k : Unit → Op σ β} (h : Tells pending (k ())) :
    Tells pending (Op.modifyOwn f >>= k) :=
  fun s e he => ends_modifyOwn (h (f s) e he)

theorem Tells.record {c : Context} (hc : c.sampling = .always) {d : Decision}
    (hd : d.deeds = pending) : Tells pending (Op.record c.sampling d : Op σ Unit) := by
  intro s e he
  unfold Ends
  rw [record_apply, hc]
  exact he.record hd

theorem Tells.note {c : ShellCall} (hc : c.deed? = none) : Tells [] (note c : Op σ Unit) := by
  intro s e he
  have hnone : [c].filterMap ShellCall.deed? = [] := by rw [List.filterMap_cons_none hc]; rfl
  refine ⟨he.toOpen.of_same rfl rfl, ?_, he.times⟩
  show (e.journal.calls ++ [c]).filterMap ShellCall.deed? = _
  rw [List.filterMap_append, hnone, List.append_nil]
  exact he.balance

-- A call that shows or cancels is noted, as it does not fail.
theorem ends_deed {s : σ} {e : Session} {m : Method} {c : ShellCall} {deed : Deed}
    (he : e.Owes pending) (hm : e.faults m = none) (hc : c.deed? = some deed) :
    (Op.call m >>= fun _ => note c : Op σ Unit).Ends s e fun r s' e' =>
      r = .ok () ∧ s' = s ∧ e'.Owes (pending ++ [deed]) := by
  unfold Ends
  rw [bind_apply, call_apply, Session.call_of_faultless hm]
  exact ⟨rfl, rfl, he.note hc⟩

end Op

namespace Delivery

variable {σ : Type} {pending : List Deed}

-- Nothing is told while alerts are shown, and each showing adds to what is to be told.
theorem presentTo_owes (address : Address) (alert : Alert) (o : Bool) (ps : List Profile) {s : σ}
    {e : Session} (he : e.Owes pending) :
    (presentTo address alert o ps : Op σ (List Int)).Ends s e fun r _ e' =>
      ∃ handles, r = .ok handles ∧ e'.Owes (pending ++ handles.map (.shows address)) := by
  induction ps generalizing e pending with
  | nil =>
    refine ⟨[], rfl, ?_⟩
    rw [List.map_nil, List.append_nil]
    exact he
  | cons p rest ih =>
    unfold presentTo
    split
    · refine Op.Ends.bind (Op.ends_deed he he.shows rfl) ?_ ?_
      · intro _ s' e₁ h
        obtain ⟨-, rfl, he₁⟩ := h
        refine Op.Ends.bind (ih he₁) ?_ ?_
        · intro handles s'' e₂ h
          obtain ⟨_, hhandles, he₂⟩ := h
          cases hhandles
          refine ⟨p.handle :: handles, rfl, ?_⟩
          rw [List.append_assoc, List.singleton_append] at he₂
          exact he₂
        · intro f s'' e₂ h
          obtain ⟨_, hhandles, -⟩ := h
          cases hhandles
      · intro f s' e₁ h
        cases h.1
    · unfold Op.Ends
      rw [Op.bind_apply]
      exact ih (he.log _)

theorem present_tells {address : Address} {alert : Alert} {o : Bool} {k : List Int → Op σ Unit}
    (hk : ∀ handles, Op.Tells (handles.map (.shows address)) (k handles)) :
    Op.Tells [] (present address alert o >>= k) := by
  intro s e he
  refine Op.Ends.bind (R := fun r _ e' =>
    (∀ handles, r = .ok handles → e'.Owes (handles.map (.shows address))) ∧
      ∀ f, r = .error f → e'.Owes []) ?_ ?_ ?_
  · -- the list of users may be refused, but then nothing was shown
    have listed : (Op.profiles : Op σ (List Profile)).Tells [] :=
      .bind (.call .profiles) fun _ => .bind .device fun _ => .pure _
    refine Op.Ends.bind (listed s e he) ?_ fun f _ _ he₁ => ⟨nofun, fun _ _ => he₁⟩
    intro ps s' e₁ he₁
    refine (presentTo_owes _ _ _ _ he₁).mono ?_
    intro r s'' e₂ h
    obtain ⟨handles, rfl, he₂⟩ := h
    refine ⟨fun handles' h => ?_, nofun⟩
    rw [← Except.ok.inj h]
    exact he₂
  · exact fun handles s' e' he' => hk handles s' e' (he'.1 handles rfl)
  · exact fun f _ _ he' => he'.2 f rfl

theorem cancel_tells {address : Address} {k : Unit → Op σ Unit}
    (hk : Op.Tells [.hides address allUsers] (k ())) : Op.Tells [] (cancel address >>= k) := by
  intro s e he
  refine Op.Ends.bind (Op.ends_deed he he.cancels rfl) ?_ ?_
  · intro _ s' e' h
    obtain ⟨-, rfl, he'⟩ := h
    exact hk s' e' he'
  · intro f s' e' h
    cases h.1

end Delivery

/-! ## 4. Requests -/

section Requests

variable {c : Context} (hc : c.sampling = .always)
include hc

theorem Blocked.record_tells (tells : Bool) (m : Medium) (number : Option String)
    (time : Calendar.Moment) (matched : MatchKind) :
    (Blocked.record c tells m number time matched).Tells [] := by
  unfold Blocked.record
  split
  · exact .bind (.log _ _ _) fun _ => .record hc rfl
  · refine .bind ?_ fun alert => Delivery.present_tells fun handles => .record hc ?_
    · exact .bind .own fun _ => .bind (.modifyOwn _) fun _ => .bind .device fun _ => .ofExcept _ _
    · cases m <;> rfl

theorem Blocked.clear_tells (given : Data.Datum) : (Blocked.clear c given).Tells [] := by
  refine .bind (.ofExcept _ _) fun mask => .forM (fun m => ?_) _
  refine .bind (.bind .own fun _ => .bind (.modifyOwn _) fun _ => .pure _) fun _ => ?_
  refine .bind (.log _ _ _) fun _ => Delivery.cancel_tells (.record hc ?_)
  cases m <;> rfl

theorem Voicemail.announce_tells (line : Int) (sound : Bool) :
    (Voicemail.announce c line sound).Tells [] := by
  refine .bind (.resolving ?_) fun found => ?_
  · exact .bind (.answer .phone _ _) fun _ => .bind (.answer .line _ _) fun _ => .pure _
  · obtain u | ⟨phone, info⟩ := found
    · exact .bind (.log _ _ _) fun _ => .record hc rfl
    · dsimp only
      split
      · exact .bind (.log _ _ _) fun _ => .record hc rfl
      · exact .bind .device fun _ => .bind (.ofExcept _ _) fun _ =>
          Delivery.present_tells fun _ => .record hc rfl

theorem Voicemail.update_tells (capable : Bool) (line : Int) (visible sound : Bool) :
    (Voicemail.update c capable line visible sound).Tells [] := by
  unfold Voicemail.update
  split
  · exact .bind (.log _ _ _) fun _ => .record hc rfl
  · refine .bind (.log _ _ _) fun _ => .modifying ?_
    split
    · exact Voicemail.announce_tells hc line sound
    · exact Delivery.cancel_tells (.record hc rfl)

theorem Voicemail.refresh_tells (capable : Bool) (line : Int) :
    (Voicemail.refresh c capable line).Tells [] := by
  refine .bind .own fun v => ?_
  dsimp only
  split
  · exact Voicemail.update_tells hc capable _ true false
  · exact .log _ _ _

theorem Forwarding.update_tells (line : Int) (visible : Bool) :
    (Forwarding.update c line visible).Tells [] := by
  refine .bind (.log _ _ _) fun _ => .modifying ?_
  split
  · refine .bind (.resolving (.answer .line _ _)) fun found => ?_
    obtain u | info := found
    · exact .bind (.log _ _ _) fun _ => .record hc rfl
    · exact .bind .device fun _ => .bind (.ofExcept _ _) fun _ =>
        Delivery.present_tells fun _ => .record hc rfl
  · exact Delivery.cancel_tells (.record hc rfl)

theorem Operator.update_tells (service : Service) : (Operator.update c service).Tells [] := by
  have preference (key : Except Number.TooManyDigits String) :
      (Op.preference key : Op Bool String).Tells [] :=
    .bind (.ofExcept _ _) fun _ => .bind (.call _) fun _ => .bind .device fun _ => .pure _
  refine .bind .device fun d => ?_
  split
  · dsimp only
    split
    · exact .log _ _ _
    · refine .bind (.bind (preference _) fun name => ?_) fun operator => ?_
      · split
        · exact preference _
        · exact .pure _
      · refine .bind (.log _ _ _) fun _ => .bind .own fun shown => ?_
        split
        · split
          · exact .bind (.ofExcept _ _) fun _ =>
              Delivery.present_tells fun _ => .modifying (.record hc rfl)
          · exact .pure _
        · split
          · exact Delivery.cancel_tells (.modifying (.record hc rfl))
          · exact .pure _
  · exact .pure _

theorem Roaming.announce_tells {σ : Type} : (Roaming.announce c : Op σ Unit).Tells [] :=
  .bind (.ofExcept _ _) fun _ => Delivery.present_tells fun _ => .record hc rfl

theorem Roaming.withdraw_tells {σ : Type} : (Roaming.withdraw c : Op σ Unit).Tells [] :=
  Delivery.cancel_tells (.record hc rfl)

end Requests

/-! ## 5. Replaying records -/

/-- Which users have an alert about which topic before them. -/
abbrev Ledger := List (Topic × Int)

namespace Ledger

def after (ledger : Ledger) (r : Record) : Ledger :=
  match r.decision.outcome with
  | .presented => ledger ++ r.decision.recipients.map (r.decision.topic, ·)
  | .cancelled => ledger.filter (·.1 ≠ r.decision.topic)
  | .skipped | .deferred => ledger

def replay (ledger : Ledger) (records : List Record) : Ledger := records.foldl after ledger

end Ledger

/-- What the records of some reports tell of the alerts before users. -/
def recorded (reports : List (Report Unit)) : Ledger :=
  Ledger.replay [] (reports.flatMap (·.journal.records))

theorem recorded_snoc (reports : List (Report Unit)) (report : Report Unit) :
    recorded (reports ++ [report]) = (recorded reports).replay report.journal.records := by
  unfold recorded Ledger.replay
  rw [List.flatMap_append, List.foldl_append, List.flatMap_singleton]

namespace Screen

def meet (screen : Screen) : Deed → Screen
  | .shows a user => (a, user) :: screen
  | .hides a user => screen.filter fun shown => shown.1 ≠ a ∨ user ≠ allUsers ∧ shown.2 ≠ user

variable {screen : Screen} {a b : Address} {user : Int}

-- The screen depends on what calls do and not on what the alerts say.
theorem replay_eq_meet (screen : Screen) (calls : List ShellCall) :
    screen.replay calls = (calls.filterMap ShellCall.deed?).foldl meet screen := by
  induction calls generalizing screen with
  | nil => rfl
  | cons c rest ih =>
    cases c with
    | present a alert user => exact ih _
    | cancel a user => exact ih _
    | showTransient text => exact ih _
    | cancelTransient => exact ih _

theorem mem_shows {users : List Int} :
    (b, user) ∈ (users.map (.shows a)).foldl meet screen ↔
      b = a ∧ user ∈ users ∨ (b, user) ∈ screen := by
  induction users generalizing screen with
  | nil => simp
  | cons first rest ih =>
    rw [List.map_cons, List.foldl_cons, ih, meet, List.mem_cons, List.mem_cons, Prod.mk.injEq]
    constructor
    · rintro (⟨hb, hu⟩ | ⟨hb, hu⟩ | h)
      · exact Or.inl ⟨hb, Or.inr hu⟩
      · exact Or.inl ⟨hb, Or.inl hu⟩
      · exact Or.inr h
    · rintro (⟨hb, hu | hu⟩ | h)
      · exact Or.inr (Or.inl ⟨hb, hu⟩)
      · exact Or.inl ⟨hb, hu⟩
      · exact Or.inr (Or.inr h)

theorem mem_hides : (b, user) ∈ screen.meet (.hides a allUsers) ↔ b ≠ a ∧ (b, user) ∈ screen := by
  unfold meet
  rw [List.mem_filter, decide_eq_true_iff]
  constructor
  · rintro ⟨h, hne | hne⟩
    · exact ⟨hne, h⟩
    · exact absurd rfl hne.1
  · rintro ⟨hne, h⟩
    exact ⟨h, Or.inl hne⟩

end Screen

/-- A ledger and a screen agree on the topics whose alerts belong to no line. -/
structure Ledger.Agrees (ledger : Ledger) (screen : Screen) : Prop where
  plain : ∀ a user, (a, user) ∈ screen → a.topic.perLine = false → a.line = none
  same : ∀ t user, t.perLine = false → ((t, user) ∈ ledger ↔ (⟨t, none⟩, user) ∈ screen)

namespace Ledger.Agrees

variable {ledger : Ledger} {screen : Screen} {t : Topic} {user : Int}

theorem nil : Agrees ([] : Ledger) ([] : Screen) where
  plain _ _ h := absurd h List.not_mem_nil
  same _ _ _ := iff_of_false List.not_mem_nil List.not_mem_nil

-- Without a line the address is as good as the topic.
theorem address_eq_iff {d : Decision} (ht : t.perLine = false) :
    (⟨t, none⟩ : Address) = d.address ↔ t = d.topic := by
  constructor
  · exact congrArg Address.topic
  · rintro rfl
    unfold Decision.address
    rw [ht]
    rfl

theorem line_of_address {d : Decision} (h : d.address.topic.perLine = false) :
    d.address.line = none := by
  have h : d.topic.perLine = false := h
  unfold Decision.address
  rw [h]
  rfl

theorem record (h : Agrees ledger screen) (r : Record) :
    Agrees (ledger.after r) (r.decision.deeds.foldl Screen.meet screen) := by
  obtain ⟨d, time⟩ := r
  unfold Ledger.after Decision.deeds
  dsimp only
  cases d.outcome with
  | presented =>
    dsimp only
    constructor
    · intro a user ha hplain
      rcases Screen.mem_shows.1 ha with ⟨rfl, -⟩ | ha
      · exact line_of_address hplain
      · exact h.plain a user ha hplain
    · intro t user ht
      rw [List.mem_append, Screen.mem_shows, h.same t user ht, address_eq_iff ht, or_comm]
      simp [eq_comm, and_comm]
  | cancelled =>
    dsimp only [List.foldl_cons, List.foldl_nil]
    constructor
    · intro a user ha hplain
      exact h.plain a user (Screen.mem_hides.1 ha).2 hplain
    · intro t user ht
      rw [List.mem_filter, decide_eq_true_iff, Screen.mem_hides, ← h.same t user ht, and_comm]
      exact and_congr_left fun _ => not_congr (address_eq_iff ht).symm
  | skipped => exact h
  | deferred => exact h

theorem records (h : Agrees ledger screen) (rs : List Record) :
    Agrees (ledger.replay rs) ((rs.flatMap (·.decision.deeds)).foldl Screen.meet screen) := by
  induction rs generalizing ledger screen with
  | nil => exact h
  | cons r rest ih =>
    rw [List.flatMap_cons, List.foldl_append]
    exact ih (h.record r)

theorem faithful (h : Agrees ledger screen) {now : Calendar.Moment} {j : Journal}
    (faithful : j.Faithful now) : Agrees (ledger.replay j.records) (screen.replay j.calls) := by
  rw [Screen.replay_eq_meet, faithful.1]
  exact h.records j.records

theorem mem_iff (h : Agrees ledger screen) (ht : t.perLine = false) :
    (t, user) ∈ ledger ↔ ∃ a, a.topic = t ∧ (a, user) ∈ screen := by
  rw [h.same t user ht]
  constructor
  · exact fun hmem => ⟨_, rfl, hmem⟩
  · rintro ⟨a, rfl, hmem⟩
    have hline := h.plain a user hmem ht
    obtain ⟨topic, line⟩ := a
    obtain rfl : line = none := hline
    exact hmem

end Ledger.Agrees

/-! ## 6. Runs -/

namespace Desk

variable {d : Desk} {e : Session} {s : Step} {steps : List Step}

-- A call that is made only where the host can show short-lived messages.
theorem whereShown_tells (m : Method) {c : ShellCall} (hc : c.deed? = none) :
    (Op.device >>= fun dev => if dev.showsTransients then Op.call m >>= fun _ => Op.note c
      else pure () : Op Desk Unit).Tells [] := by
  refine .bind .device fun dev => ?_
  split
  · exact .bind (.call m) fun _ => .note hc
  · exact .pure _

theorem perform_tells (hd : d.settings.tracing = .always) (he : e.Owes []) (r : Request) :
    (perform r).Ends d e fun _ _ e' => e'.Owes [] := by
  have hc : d.context.sampling = .always := hd
  have tells : (d.answer r).Tells [] := by
    cases r with
    | blocked m number time matched =>
      exact .within (Blocked.record_tells hc _ m number time matched)
    | clearBlocked given => exact .within (Blocked.clear_tells hc given)
    | updateVoicemail line visible sound =>
      exact .within (Voicemail.update_tells hc _ line visible sound)
    | refreshVoicemail line => exact .within (Voicemail.refresh_tells hc _ line)
    | updateForwarding line visible => exact .within (Forwarding.update_tells hc line visible)
    | updateService service => exact .within (Operator.update_tells hc service)
    | showRoaming => exact Roaming.announce_tells hc
    | hideRoaming => exact Roaming.withdraw_tells hc
    | transient text => exact .bind (whereShown_tells _ rfl) fun _ => whereShown_tells _ rfl
  exact Op.ends_own (tells d e he)

/-- Everything is recorded, and neither recording nor showing or cancelling an alert fails. -/
structure Traced (state : Desk × Session) : Prop where
  tracing : state.1.settings.tracing = .always
  host : state.2.Open

/-- A step leaves recording on and makes no method fail that recording, showing or cancelling an
alert needs. -/
structure Step.Spares (s : Step) : Prop where
  tracing : s ≠ .settings (.tracing false)
  faultless : ∀ m ∈ [Method.present, .cancel, .record], ∀ f, s ≠ .host (.fault m f)

theorem tracing_of_change {settings : Settings} {c : Change} (h : settings.tracing = .always)
    (hc : c ≠ .tracing false) : (changed settings c).tracing = .always := by
  cases c with
  | tracing enabled =>
    cases enabled with
    | true =>
      show { settings.tracing with enabled := true } = Sampling.always
      rw [h]
      rfl
    | false => exact absurd rfl hc
  | _ => exact h

theorem open_of_change {c : Session.Change} (h : e.Open)
    (faultless : ∀ m ∈ [Method.present, .cancel, .record], ∀ f, c ≠ .fault m f) :
    (e.apply c).Open where
  sink := by
    cases c with
    | _ => exact h.sink
  shows := Session.faultless_apply h.shows (faultless .present (by decide))
  cancels := Session.faultless_apply h.cancels (faultless .cancel (by decide))
  records := Session.faultless_apply h.records (faultless .record (by decide))

-- One step: what it reports tells what it did, and everything is still recorded after it.
theorem step_traced {state : Desk × Session} (h : Traced state) (spares : s.Spares) :
    Traced (s.op.report state).2 ∧
      (s.op.report state).1.journal.Faithful state.2.device.now := by
  obtain ⟨d, e⟩ := state
  cases s with
  | request r =>
    have he : ((perform r).report (d, e)).2.2.Owes [] := perform_tells h.tracing h.host.blank r
    have faithful := he.faithful
    cases takes d e (.request r) with
    | request after does =>
      refine ⟨⟨(congrArg Settings.tracing (settings_of_does does)).trans h.tracing, he.toOpen⟩, ?_⟩
      have hnow : ((perform r).report (d, e)).2.2.device = e.device := after.device
      rw [hnow] at faithful
      exact faithful
  | settings c =>
    have hc : c ≠ .tracing false := fun hc => spares.tracing (hc ▸ rfl)
    exact ⟨⟨tracing_of_change h.tracing hc, h.host.blank.toOpen⟩, Journal.faithful_blank _⟩
  | host c =>
    have hopen := open_of_change h.host.blank.toOpen fun m hm f hc =>
      spares.faultless m hm f (hc ▸ rfl)
    have hjournal : (Step.op (.host c)).report (d, e) = (⟨.ok (), {}⟩, d, e.blank.apply c) := by
      cases c <;> rfl
    rw [hjournal]
    exact ⟨⟨h.tracing, hopen⟩, Journal.faithful_blank _⟩

-- A run: what its records tell agrees with what is on the screen.
theorem run_traced (h : Traced (d, e)) (spares : ∀ s ∈ steps, s.Spares) :
    Traced (run steps (d, e)).2 ∧
      (recorded (run steps (d, e)).1).Agrees (displayed (run steps (d, e)).1) := by
  induction steps using List.reverseRecOn with
  | nil => exact ⟨h, .nil⟩
  | append_singleton steps s ih =>
    obtain ⟨htraced, agrees⟩ := ih fun s hs => spares s (List.mem_append_left _ hs)
    obtain ⟨hnext, faithful⟩ :=
      step_traced htraced (spares s (List.mem_append_right _ List.mem_cons_self))
    rw [run_snoc, recorded_snoc, displayed_snoc]
    exact ⟨hnext, agrees.faithful faithful⟩

/-- Where every decision is recorded and neither recording nor showing or cancelling an alert
fails, the records of every step stand, in order, for all that it shows and cancels, and have the
time of the step.  So replaying records tells who has the alerts that belong to no line before
them, as replaying calls does. -/
theorem records_faithful {d : Desk} {e : Session} {steps : List Step} (traced : Traced (d, e))
    (spares : ∀ s ∈ steps, s.Spares) :
    (∀ past s rest, steps = past ++ s :: rest →
      let before := (run past (d, e)).2
      (s.op.report before).1.journal.Faithful before.2.device.now) ∧
    ∀ t user, t.perLine = false →
      ((t, user) ∈ recorded (run steps (d, e)).1 ↔
        ∃ a, a.topic = t ∧ (a, user) ∈ displayed (run steps (d, e)).1) := by
  refine ⟨fun past s rest hsteps => ?_, fun t user ht => (run_traced traced spares).2.mem_iff ht⟩
  subst hsteps
  obtain ⟨before, -⟩ := run_traced traced fun s' hs => spares s' (List.mem_append_left _ hs)
  exact (step_traced before (spares s (List.mem_append_right _ List.mem_cons_self))).2

/-- The list of users is refused once, and a line is not found. -/
def hampered : List Step :=
  [.request .showRoaming, .host (.fault .profiles ⟨0, .collaborator .profiles⟩),
    .request (.updateForwarding 5 true), .host .noFaults, .request (.updateForwarding 5 true),
    .request (.updateVoicemail 7 true)]

theorem records_faithful_hampered :
    let d : Desk := { fresh with settings := { tracing := .always } }
    let before := run hampered (d, { device := twoUsers })
    let clearing := ((Step.request (.clearBlocked (.int 3))).op.report before.2).1
    (before.1.map fun report => report.journal.records.map (·.decision.outcome)) =
      [[.presented], [], [], [], [.presented], [.skipped]] ∧
      clearing.journal.records.map (·.decision.topic) = [.blockedCall, .blockedMessage] ∧
      clearing.journal.Faithful before.2.2.device.now ∧
      (.roamingDisconnected, 10) ∈ recorded before.1 ∧
      ∃ a, a.topic = .roamingDisconnected ∧ (a, 10) ∈ displayed before.1 := by
  intro d before clearing
  have traced : Traced (d, { device := twoUsers }) := ⟨rfl, rfl, rfl, rfl, rfl⟩
  have spares (s : Step) (hs : s ∈ hampered ++ [.request (.clearBlocked (.int 3))]) : s.Spares := by
    simp only [hampered, List.cons_append, List.nil_append, List.mem_cons, List.not_mem_nil,
      or_false] at hs
    rcases hs with rfl | rfl | rfl | rfl | rfl | rfl | rfl <;>
      exact ⟨nofun, fun m hm f h => by cases h <;> exact absurd hm (by decide)⟩
  have faithful := (records_faithful traced spares).1 hampered _ [] rfl
  have same := (records_faithful traced fun s hs => spares s (List.mem_append_left _ hs)).2
  have roaming : (.roamingDisconnected, 10) ∈ recorded before.1 := by decide +kernel
  exact ⟨by decide +kernel, by decide +kernel, faithful, roaming,
    (same .roamingDisconnected 10 rfl).1 roaming⟩

end Desk

end TelephonyAlerts
