import TelephonyAlerts.Host.Operation
import TelephonyAlerts.Proofs.Results

/-!
# Reasoning about operations

An operation is a function from what it finds to its result and what it leaves.  The first
section gives that function for every basic operation, so that a run can be followed by
rewriting.  The rest speaks of `Ends`, which says what holds where an operation ends, and of the
operations that neither change their component nor make calls, whose end needs no following.
-/

namespace TelephonyAlerts

open TelephonyAlerts.Data

namespace Op

variable {σ τ α β : Type}

/-! ## 1. Basic operations as functions -/

@[simp] theorem bind_apply (op : Op σ α) (k : α → Op σ β) (x : σ × Session) :
    (op >>= k) x = match op x with
      | (.ok a, y) => k a y
      | (.error f, y) => (.error f, y) := by
  show (match op x with | (a, y) => ExceptT.bindCont k a y) = _
  rcases op x with ⟨_ | _, _⟩ <;> rfl

@[simp] theorem tryCatch_apply (op : Op σ α) (handle : Failure → Op σ α) (x : σ × Session) :
    (tryCatch op handle) x = match op x with
      | (.ok a, y) => (.ok a, y)
      | (.error f, y) => handle f y := by
  simp only [tryCatch, tryCatchThe, MonadExceptOf.tryCatch, ExceptT.tryCatch, ExceptT.mk, bind,
    StateT.bind]
  rcases op x with ⟨_ | _, _⟩ <;> rfl

@[simp] theorem own_apply (x : σ × Session) : (own : Op σ σ) x = (.ok x.1, x) := rfl

@[simp] theorem session_apply (x : σ × Session) : (session : Op σ Session) x = (.ok x.2, x) := rfl

@[simp] theorem device_apply (x : σ × Session) :
    (device : Op σ Device) x = (.ok x.2.device, x) := rfl

@[simp] theorem modifyOwn_apply (f : σ → σ) (x : σ × Session) :
    modifyOwn f x = (.ok (), f x.1, x.2) := rfl

@[simp] theorem modifySession_apply (f : Session → Session) (x : σ × Session) :
    modifySession f x = (.ok (), x.1, f x.2) := rfl

@[simp] theorem ofExcept_apply {ε : Type} (failure : ε → Failure) (r : Except ε α)
    (x : σ × Session) : (ofExcept failure r : Op σ α) x = (r.mapError failure, x) := by
  cases r <;> rfl

@[simp] theorem call_apply (m : Method) (x : σ × Session) :
    (call m : Op σ Unit) x = ((x.2.call m).1, x.1, (x.2.call m).2) := by
  simp only [call, bind_apply, session_apply, modifySession_apply, ofExcept_apply]
  cases (x.2.call m).1 <;> rfl

/-! ## 2. Where an operation ends -/

/-- `Q` holds of the result of an operation and of what it leaves behind. -/
def Ends (op : Op σ α) (s : σ) (e : Session) (Q : Except Failure α → σ → Session → Prop) : Prop :=
  Q (op (s, e)).1 (op (s, e)).2.1 (op (s, e)).2.2

variable {s : σ} {e : Session} {op : Op σ α} {k : α → Op σ β}
  {R : Except Failure α → σ → Session → Prop} {Q : Except Failure β → σ → Session → Prop}

theorem Ends.mono {R' : Except Failure α → σ → Session → Prop} (h : op.Ends s e R)
    (himp : ∀ r s' e', R r s' e' → R' r s' e') : op.Ends s e R' :=
  himp _ _ _ h

/-- What follows an operation starts where the operation ended, unless it failed. -/
theorem Ends.bind (h : op.Ends s e R)
    (answered : ∀ a s' e', R (.ok a) s' e' → (k a).Ends s' e' Q)
    (failed : ∀ f s' e', R (.error f) s' e' → Q (.error f) s' e') :
    (op >>= k).Ends s e Q := by
  unfold Ends at *
  rw [bind_apply]
  rcases hx : op (s, e) with ⟨f | a, s', e'⟩
  · rw [hx] at h
    exact failed f s' e' h
  · rw [hx] at h
    exact answered a s' e' h

theorem ends_own {k : σ → Op σ β} (h : (k s).Ends s e Q) : (own >>= k).Ends s e Q := by
  unfold Ends
  rw [bind_apply, own_apply]
  exact h

theorem ends_device {k : Device → Op σ β} (h : (k e.device).Ends s e Q) :
    (device >>= k).Ends s e Q := by
  unfold Ends
  rw [bind_apply, device_apply]
  exact h

theorem ends_modifyOwn {f : σ → σ} {k : Unit → Op σ β} (h : (k ()).Ends (f s) e Q) :
    (modifyOwn f >>= k).Ends s e Q := by
  unfold Ends
  rw [bind_apply, modifyOwn_apply]
  exact h

theorem ends_ofRender {x : Except Template.RenderError α}
    (answered : ∀ a, x = .ok a → (k a).Ends s e Q)
    (failed : ∀ cause, x = .error cause → Q (.error (.render cause)) s e) :
    (ofRender x >>= k).Ends s e Q := by
  unfold Ends
  rw [bind_apply, ofRender, ofExcept_apply]
  cases x with
  | error cause => exact failed cause rfl
  | ok a => exact answered a rfl

end Op

/-! ## 3. How a session goes on -/

namespace Session

/-- A method fails, now or after some more calls, with the given failure. -/
def Fails (e : Session) (m : Method) (f : Failure) : Prop :=
  ∃ fault, e.faults m = some fault ∧ fault.failure = f

def logged (row : LogRow) (e : Session) : Session :=
  { e with journal := { e.journal with rows := e.journal.rows ++ [row] } }

def noted (c : ShellCall) (e : Session) : Session :=
  { e with journal := { e.journal with calls := e.journal.calls ++ [c] } }

/-- A session as an operation may leave it that made the given calls. -/
structure After (e : Session) (calls : List ShellCall) (e' : Session) : Prop where
  device : e'.device = e.device
  fails : ∀ {m f}, e'.Fails m f → e.Fails m f
  calls : e'.journal.calls = e.journal.calls ++ calls

theorem After.refl (e : Session) : e.After [] e := ⟨rfl, id, (List.append_nil _).symm⟩

theorem After.trans {e e' e'' : Session} {cs ds : List ShellCall} (h : e.After cs e')
    (h' : e'.After ds e'') : e.After (cs ++ ds) e'' where
  device := h'.device.trans h.device
  fails hf := h.fails (h'.fails hf)
  calls := by rw [h'.calls, h.calls, List.append_assoc]

theorem After.still {e e' e'' : Session} {cs : List ShellCall} (h : e.After cs e')
    (h' : e'.After [] e'') : e.After cs e'' := by
  simpa using h.trans h'

theorem After.then {e e' e'' : Session} {cs : List ShellCall} (h : e.After [] e')
    (h' : e'.After cs e'') : e.After cs e'' :=
  h.trans h'

theorem After.faultless {e e' : Session} {cs : List ShellCall} {m : Method} (h : e.After cs e')
    (hm : e.faults m = none) : e'.faults m = none := by
  rw [Option.eq_none_iff_forall_ne_some]
  intro fault hf
  obtain ⟨_, hfault, _⟩ := h.fails ⟨fault, hf, rfl⟩
  rw [hm] at hfault
  cases hfault

theorem call_after (e : Session) (m : Method) : e.After [] (e.call m).2 := by
  unfold call
  rcases hf : e.faults m with _ | ⟨_ | n, failure⟩
  · exact After.refl e
  · exact After.refl e
  · refine ⟨rfl, ?_, (List.append_nil _).symm⟩
    -- the fault comes nearer, but the failure that it has in store stays the same
    intro m' f h
    obtain ⟨fault, hfault, rfl⟩ := h
    by_cases hm : m' = m
    · simp only [hm, if_true, Option.some.injEq] at hfault
      exact ⟨_, hm ▸ hf, by rw [← hfault]⟩
    · simp only [if_neg hm] at hfault
      exact ⟨fault, hfault, rfl⟩

theorem fails_of_call {e : Session} {m : Method} {f : Failure} (h : (e.call m).1 = .error f) :
    e.Fails m f := by
  unfold call at h
  rcases hf : e.faults m with _ | ⟨_ | n, failure⟩
  · simp [hf] at h
  · simp only [hf, Except.error.injEq] at h
    exact ⟨_, hf, h⟩
  · simp [hf] at h

/-- A method answers the given number of calls from now on. -/
def Answers (e : Session) (m : Method) (n : Nat) : Prop :=
  ∀ fault, e.faults m = some fault → n ≤ fault.after

/-- The failures to come once a method was called: its own is one call nearer. -/
def nearer (e : Session) (m : Method) : Method → Option Fault := fun m' =>
  if m' = m then (e.faults m).map fun f => { f with after := f.after - 1 } else e.faults m'

-- A call leaves its mark on what fails alone, also where it fails itself.
theorem call_state (e : Session) (m : Method) : (e.call m).2 = { e with faults := e.nearer m } := by
  have hkept (h : (e.faults m).map (fun f => { f with after := f.after - 1 }) = e.faults m) :
      e.nearer m = e.faults := by
    funext m'
    unfold nearer
    split
    · rename_i hm
      rw [h, hm]
    · rfl
  unfold call
  rcases hfault : e.faults m with _ | ⟨_ | n, failure⟩
  · rw [hkept (by rw [hfault]; rfl)]
  · rw [hkept (by rw [hfault]; rfl)]
  · have hnearer : e.nearer m = fun m' => if m' = m then some ⟨n, failure⟩ else e.faults m' := by
      funext m'
      rw [nearer, hfault]
      rfl
    rw [hnearer]

section

variable {e : Session} {m : Method} {k : Nat} {f : Failure}

theorem nearer_self : e.nearer m m = (e.faults m).map fun f => { f with after := f.after - 1 } :=
  if_pos rfl

theorem call_of_answers (h : e.Answers m 1) : (e.call m).1 = .ok () := by
  unfold call
  rcases hfault : e.faults m with _ | ⟨_ | n, failure⟩
  · rfl
  · have hafter := h _ hfault
    simp at hafter
  · rfl

theorem call_of_not_answers (h : ¬ e.Answers m 1) : ∃ f, (e.call m).1 = .error f := by
  unfold call
  rcases hfault : e.faults m with _ | ⟨_ | n, failure⟩
  · exact absurd (fun _ hf => by rw [hfault] at hf; cases hf) h
  · exact ⟨failure, rfl⟩
  · refine absurd (fun _ hf => ?_) h
    rw [hfault] at hf
    cases hf
    exact Nat.le_add_left 1 n

-- One call is one less that the method answers from then on.
theorem answers_call (h : e.Answers m 1) (n : Nat) :
    (e.call m).2.Answers m n ↔ e.Answers m (n + 1) := by
  rw [call_state]
  show (∀ fault, e.nearer m m = some fault → n ≤ fault.after) ↔ _
  rw [nearer_self]
  unfold Answers at h ⊢
  cases hfault : e.faults m with
  | none => simp
  | some fault =>
    have hafter := h fault hfault
    simp only [Option.map_some, Option.some.injEq, forall_eq']
    omega

theorem faults_of_error (h : (e.call m).1 = .error f) : e.faults m = some ⟨0, f⟩ := by
  unfold call at h
  rcases hfault : e.faults m with _ | ⟨_ | n, failure⟩
  · rw [hfault] at h
    cases h
  · rw [hfault] at h
    cases h
    rfl
  · rw [hfault] at h
    cases h

-- A failure that is left after a call was one call further away before it.
theorem faults_of_call (answered : (e.call m).1 = .ok ())
    (h : (e.call m).2.faults m = some ⟨k, f⟩) : e.faults m = some ⟨k + 1, f⟩ := by
  have hcome : e.nearer m m = some ⟨k, f⟩ := by
    rw [call_state] at h
    exact h
  rw [nearer_self] at hcome
  rcases hfault : e.faults m with _ | ⟨_ | n, failure⟩
  · rw [hfault] at hcome
    cases hcome
  · unfold call at answered
    rw [hfault] at answered
    cases answered
  · rw [hfault] at hcome
    cases hcome
    rfl

theorem answers_of_call (answered : (e.call m).1 = .ok ()) : e.Answers m 1 := by
  intro fault hfault
  unfold call at answered
  rcases fault with ⟨_ | n, failure⟩
  · rw [hfault] at answered
    cases answered
  · exact Nat.le_add_left 1 n

theorem faults_call_of_ne {m' : Method} (h : m' ≠ m) : (e.call m).2.faults m' = e.faults m' := by
  rw [call_state]
  exact if_neg h

theorem Answers.mono {n n' : Nat} (answers : e.Answers m n) (h : n' ≤ n) : e.Answers m n' :=
  fun fault hfault => Nat.le_trans h (answers fault hfault)

theorem not_answers (fails : e.faults m = some ⟨k, f⟩) {n : Nat} (short : k < n) :
    ¬ e.Answers m n := fun answers => absurd (answers _ fails) (Nat.not_le_of_lt short)

end

/-- A record is handed to the sink.  Only a callback can fail. -/
def emit (e : Session) (r : Record) : Except Failure Unit × Session :=
  match e.sink with
  | .callback =>
    match e.call .record with
    | (.error f, e') => (.error f, e')
    | (.ok _, e') =>
      (.ok (), { e' with journal := { e'.journal with records := e'.journal.records ++ [r] } })
  | _ => (.ok (), { e with sink := e.sink.add r })

/-- A decision is recorded if sampling selects it. -/
def record (e : Session) (sampling : Sampling) (d : Decision) : Except Failure Unit × Session :=
  let drawn : Session := { e with draws := (sampling.selects e.draws).2 }
  match (sampling.selects e.draws).1 with
  | .error u => (.error (.sampling u), drawn)
  | .ok false => (.ok (), drawn)
  | .ok true => drawn.emit ⟨d, e.device.now⟩

theorem emit_after (e : Session) (r : Record) : e.After [] (e.emit r).2 := by
  unfold emit
  cases e.sink with
  | callback =>
    have hcall := e.call_after .record
    rcases hc : e.call .record with ⟨_ | _, e'⟩
    · rw [hc] at hcall
      exact hcall
    · rw [hc] at hcall
      exact ⟨hcall.device, hcall.fails, hcall.calls⟩
  | buffer capacity records => exact ⟨rfl, id, (List.append_nil _).symm⟩
  | discard => exact ⟨rfl, id, (List.append_nil _).symm⟩

theorem record_after (e : Session) (sampling : Sampling) (d : Decision) :
    e.After [] (e.record sampling d).2 := by
  have drawn : e.After [] { e with draws := (sampling.selects e.draws).2 } :=
    ⟨rfl, id, (List.append_nil _).symm⟩
  unfold record
  rcases (sampling.selects e.draws).1 with u | _ | _
  · exact drawn
  · exact drawn
  · exact drawn.then (emit_after _ _)

theorem fails_of_emit {e : Session} {r : Record} {f : Failure} (h : (e.emit r).1 = .error f) :
    e.Fails .record f := by
  unfold emit at h
  cases hsink : e.sink with
  | callback =>
    rw [hsink] at h
    rcases hc : e.call .record with ⟨f' | _, e'⟩
    · rw [hc] at h
      obtain rfl := Except.error.inj h
      exact fails_of_call (by rw [hc])
    · rw [hc] at h
      cases h
  | buffer capacity records =>
    rw [hsink] at h
    cases h
  | discard =>
    rw [hsink] at h
    cases h

theorem fails_of_record {e : Session} {sampling : Sampling} {d : Decision} {f : Failure}
    (h : (e.record sampling d).1 = .error f) :
    (∃ u, f = .sampling u) ∨ e.Fails .record f := by
  unfold record at h
  rcases hselected : (sampling.selects e.draws).1 with u | _ | _
  · rw [hselected] at h
    exact Or.inl ⟨u, (Except.error.inj h).symm⟩
  · rw [hselected] at h
    cases h
  · rw [hselected] at h
    -- drawing a number does not change what fails
    have hdrawn : { e with draws := (sampling.selects e.draws).2 }.Fails .record f :=
      fails_of_emit h
    exact Or.inr hdrawn

def recorded (r : Record) (e : Session) : Session :=
  { e with journal := { e.journal with records := e.journal.records ++ [r] } }

/-- A change of sessions that calling methods and recording decisions pass by: they read nothing
of what is changed, and what they write is written beside it. -/
structure Aside (f : Session → Session) : Prop where
  faults : ∀ e, (f e).faults = e.faults
  draws : ∀ e, (f e).draws = e.draws
  sink : ∀ e, (f e).sink = e.sink
  now : ∀ e, (f e).device.now = e.device.now
  withFaults : ∀ e faults, f { e with faults } = { f e with faults }
  withDraws : ∀ e draws, f { e with draws } = { f e with draws }
  withSink : ∀ e sink, f { e with sink } = { f e with sink }
  withRecord : ∀ e r, f (e.recorded r) = (f e).recorded r

section

variable {f : Session → Session} (aside : Aside f)
include aside

theorem Aside.call (e : Session) (m : Method) :
    (f e).call m = ((e.call m).1, f (e.call m).2) := by
  unfold Session.call
  rw [aside.faults]
  rcases e.faults m with _ | ⟨_ | n, failure⟩
  · rfl
  · rfl
  · exact Prod.ext rfl (aside.withFaults e _).symm

theorem Aside.emit (e : Session) (r : Record) :
    (f e).emit r = ((e.emit r).1, f (e.emit r).2) := by
  unfold Session.emit
  rw [aside.sink]
  cases e.sink with
  | callback =>
    dsimp only
    rw [aside.call]
    rcases e.call .record with ⟨_ | _, e'⟩
    · rfl
    · exact Prod.ext rfl (aside.withRecord e' r).symm
  | buffer capacity records => exact Prod.ext rfl (aside.withSink e _).symm
  | discard => exact Prod.ext rfl (aside.withSink e _).symm

theorem Aside.record (e : Session) (sampling : Sampling) (d : Decision) :
    (f e).record sampling d = ((e.record sampling d).1, f (e.record sampling d).2) := by
  unfold Session.record
  rw [aside.draws, aside.now, ← aside.withDraws]
  rcases (sampling.selects e.draws).1 with u | _ | _
  · rfl
  · rfl
  · exact aside.emit _ _

end

end Session

/-! ## 4. Operations that make no calls -/

namespace Op

variable {σ α β : Type}

/-- Neither the component is changed nor is the host called to show or cancel anything. -/
def Quiet (op : Op σ α) : Prop :=
  ∀ s e, op.Ends s e fun _ s' e' => s' = s ∧ e.After [] e'

theorem Quiet.log (level : Level) (source : Source) (text : String) :
    Quiet (log level source text : Op σ Unit) :=
  fun _ _ => ⟨rfl, rfl, id, (List.append_nil _).symm⟩

-- A log row is written without fail.
theorem ends_log {level : Level} {source : Source} {text : String} {k : Unit → Op σ β} {s : σ}
    {e : Session} {Q : Except Failure β → σ → Session → Prop}
    (h : ∀ e', e.After [] e' → (k ()).Ends s e' Q) : (log level source text >>= k).Ends s e Q := by
  unfold Ends
  rw [bind_apply]
  exact h _ (Quiet.log level source text s e).2

theorem require_eq_ok {value : Option α} {kind : String} {ref : Datum} {a : α} :
    require value kind ref = .ok a ↔ value = some a := by
  cases value <;> simp [require]

-- A method that answers from the device answers as the device stands.
theorem answer_ends {ε : Type} (m : Method) (failure : ε → Failure) (answer : Device → Except ε α)
    (s : σ) (e : Session) :
    (call m >>= fun _ => device >>= fun d => ofExcept failure (answer d) : Op σ α).Ends s e
      fun r s' e' => s' = s ∧ e.After [] e' ∧ ∀ a, r = .ok a → answer e.device = .ok a := by
  have hafter := e.call_after m
  unfold Ends
  rw [bind_apply, call_apply]
  rcases hc : e.call m with ⟨f | _, e'⟩
  · rw [hc] at hafter
    exact ⟨rfl, hafter, nofun⟩
  · rw [hc] at hafter
    simp only [bind_apply, device_apply, ofExcept_apply, mapError_eq_ok]
    exact ⟨trivial, hafter, fun a ha => hafter.device ▸ ha⟩

theorem profiles_ends (s : σ) (e : Session) :
    (profiles : Op σ (List Profile)).Ends s e fun r s' e' =>
      s' = s ∧ e.After [] e' ∧ ∀ ps, r = .ok ps → e.device.profiles = ps :=
  (answer_ends .profiles id (fun d => .ok d.profiles) s e).mono fun _ _ _ h =>
    ⟨h.1, h.2.1, fun ps hps => Except.ok.inj (h.2.2 ps hps)⟩

theorem preference_ends (key : Except Number.TooManyDigits String) (s : σ) (e : Session) :
    (preference key : Op σ String).Ends s e fun r s' e' =>
      s' = s ∧ e.After [] e' ∧ ∀ text, r = .ok text → key.map e.device.preference = .ok text := by
  cases key with
  | error _ => exact ⟨rfl, .refl e, nofun⟩
  | ok key =>
    refine (answer_ends .preference id (fun d => .ok (d.preference key)) s e).mono fun r s' e' h =>
      ⟨h.1, h.2.1, fun text htext => ?_⟩
    obtain rfl : e.device.preference key = text := Except.ok.inj (h.2.2 text htext)
    rfl

theorem phone_ends (line : Int) (s : σ) (e : Session) :
    (phone line : Op σ Phone).Ends s e fun r s' e' => s' = s ∧ e.After [] e' ∧
      ∀ p, r = .ok p → e.device.phones.get? line = some p :=
  (answer_ends .phone id (fun d => require (d.phones.get? line) "phone" (.int line)) s e).mono
    fun _ _ _ h => ⟨h.1, h.2.1, fun p hp => require_eq_ok.1 (h.2.2 p hp)⟩

theorem line_ends (key : Int) (s : σ) (e : Session) :
    (line key : Op σ Line).Ends s e fun r s' e' => s' = s ∧ e.After [] e' ∧
      ∀ l, r = .ok l → e.device.lines.get? key = some l :=
  (answer_ends .line id (fun d => require (d.lines.get? key) "subscription" (.int key)) s e).mono
    fun _ _ _ h => ⟨h.1, h.2.1, fun l hl => require_eq_ok.1 (h.2.2 l hl)⟩

theorem emit_apply (r : Record) (x : σ × Session) :
    (emit r : Op σ Unit) x = ((x.2.emit r).1, x.1, (x.2.emit r).2) := by
  obtain ⟨s, e⟩ := x
  simp only [emit, Session.emit, bind_apply, session_apply]
  cases hsink : e.sink with
  | callback =>
    simp only [bind_apply, call_apply, modifySession_apply]
    rcases e.call .record with ⟨_ | _, e'⟩ <;> rfl
  | buffer capacity records => simp only [modifySession_apply, hsink]
  | discard => simp only [modifySession_apply, hsink]

-- What recording a decision does is settled at the session alone.
theorem record_apply (sampling : Sampling) (d : Decision) (x : σ × Session) :
    (record sampling d : Op σ Unit) x =
      ((x.2.record sampling d).1, x.1, (x.2.record sampling d).2) := by
  simp only [record, bind_apply, session_apply, modifySession_apply, ofExcept_apply, Session.record]
  rcases (sampling.selects x.2.draws).1 with u | _ | _
  · rfl
  · rfl
  · show (emit _ : Op σ Unit) _ = _
    rw [emit_apply]

theorem Quiet.record (sampling : Sampling) (d : Decision) :
    Quiet (record sampling d : Op σ Unit) := by
  intro s e
  unfold Ends
  rw [record_apply]
  exact ⟨rfl, e.record_after sampling d⟩

-- Resolving ends where the operation did, with its answer or with what was not resolved.
theorem resolving_ends {op : Op σ α} {s : σ} {e : Session}
    {R : Except Failure α → σ → Session → Prop} (h : op.Ends s e R) :
    (resolving op).Ends s e fun r s' e' =>
      ∃ r', R r' s' e' ∧ ∀ a, r = .ok (.ok a) → r' = .ok a := by
  unfold Ends at h ⊢
  simp only [resolving, tryCatch_apply, bind_apply]
  rcases hx : op (s, e) with ⟨f | a, s', e'⟩
  · rw [hx] at h
    -- only an unresolved reference is answered; any other failure is thrown again
    refine ⟨.error f, ?_, ?_⟩
    · cases f <;> exact h
    · intro a ha
      cases f <;> cases ha
  · rw [hx] at h
    refine ⟨.ok a, h, fun b hb => ?_⟩
    cases hb
    rfl

theorem Quiet.ends {op : Op σ α} {s : σ} {e : Session} {Q : Except Failure α → σ → Session → Prop}
    (h : Quiet op) (hQ : ∀ r e', e.After [] e' → Q r s e') : op.Ends s e Q := by
  refine (h s e).mono fun r s' e' hs => ?_
  obtain ⟨rfl, he⟩ := hs
  exact hQ r e' he

end Op

end TelephonyAlerts
