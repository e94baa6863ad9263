import TelephonyAlerts.Proofs.Coupling
import TelephonyAlerts.Proofs.Run

/-!
# Refused records

Requests record what they decided when all else is done, so a callback that refuses a record keeps
nothing from being done: calls and desk are those of a run with a sink that keeps nothing.  The one
exception is clearing calls and messages together, where a record follows each of them.  A record
that is refused after the calls were cleared leaves the messages as they are.
-/

namespace TelephonyAlerts

open TelephonyAlerts.Data

/-! ## 1. Sessions beside a sink that keeps nothing -/

namespace Session

/-- The session with a sink that keeps nothing. -/
def unheard (e : Session) : Session := { e with sink := .discard }

/-- The session without all that concerns its sink. -/
def silent (e : Session) : Session :=
  { e with
    sink := .discard
    faults := fun m => if m = .record then none else e.faults m
    journal := { e.journal with records := [] } }

variable {e : Session}

theorem call_congr {e' : Session} {m : Method} (faults : e'.faults m = e.faults m) :
    (e'.call m).1 = (e.call m).1 := by
  unfold call
  rw [faults]
  rcases e.faults m with _ | ⟨_ | n, failure⟩ <;> rfl

theorem call_silent {m : Method} (hm : m ≠ .record) (e : Session) :
    e.silent.call m = ((e.call m).1, (e.call m).2.silent) := by
  have hfaults : e.silent.faults m = e.faults m := if_neg hm
  have hnearer : e.silent.nearer m = fun m' => if m' = .record then none else e.nearer m m' := by
    funext m'
    unfold nearer
    rw [hfaults]
    by_cases h : m' = .record
    · rw [if_pos h, h, if_neg (Ne.symm hm)]
      rfl
    · rw [if_neg h]
      show (if m' = m then _ else if m' = .record then none else e.faults m') = _
      rw [if_neg h]
  have hstate : (e.silent.call m).2 = (e.call m).2.silent := by
    rw [call_state, call_state, hnearer]
    rfl
  exact Prod.ext (call_congr hfaults) hstate

theorem silent_call_record (e : Session) : (e.call .record).2.silent = e.silent := by
  have hnearer : (fun m => if m = .record then none else e.nearer .record m) =
      fun m => if m = .record then none else e.faults m := by
    funext m
    unfold nearer
    split <;> rfl
  rw [call_state]
  exact congrArg (fun faults => { e.silent with faults }) hnearer

theorem silent_emit (e : Session) (r : Record) : (e.emit r).2.silent = e.silent := by
  have hcall := silent_call_record e
  unfold emit
  cases e.sink with
  | callback =>
    rcases hx : e.call .record with ⟨_ | _, e'⟩
    · rw [hx] at hcall
      exact hcall
    · rw [hx] at hcall
      exact hcall
  | buffer capacity records => rfl
  | discard => rfl

theorem silent_record (e : Session) (sampling : Sampling) (d : Decision) :
    (e.record sampling d).2.silent =
      { e.silent with draws := (sampling.selects e.silent.draws).2 } := by
  unfold record
  show _ = { e.silent with draws := (sampling.selects e.draws).2 }
  rcases (sampling.selects e.draws).1 with u | _ | _
  · rfl
  · rfl
  · exact silent_emit _ _

theorem record_faults {m : Method} (hm : m ≠ .record) (sampling : Sampling) (d : Decision) :
    (e.record sampling d).2.faults m = e.faults m := by
  have hsilent (e : Session) : e.silent.faults m = e.faults m := if_neg hm
  rw [← hsilent, silent_record]
  exact hsilent e

theorem result_of_emit (e : Session) (r : Record) :
    (e.emit r).1 = if e.sink = .callback then (e.call .record).1 else .ok () := by
  obtain ⟨device, faults, draws, sink, journal⟩ := e
  cases sink with
  | callback =>
    rw [if_pos rfl]
    unfold emit
    dsimp only
    rcases call .record _ with ⟨_ | _, e'⟩ <;> rfl
  | _ => rfl

theorem record_of_selected {sampling : Sampling}
    (selected : (sampling.selects e.draws).1 = .ok true) (d : Decision) :
    (e.record sampling d).1 = if e.sink = .callback then (e.call .record).1 else .ok () := by
  have hdrawn : ({ e with draws := (sampling.selects e.draws).2 }.call .record).1 =
      (e.call .record).1 := call_congr rfl
  unfold record
  rw [selected, ← hdrawn]
  exact result_of_emit _ _

-- What is not selected does not reach the sink.
theorem record_of_unselected {e' : Session} {sampling : Sampling}
    (unselected : (sampling.selects e.draws).1 ≠ .ok true) (draws : e'.draws = e.draws)
    (d : Decision) : (e'.record sampling d).1 = (e.record sampling d).1 := by
  unfold record
  rw [draws]
  rcases hselected : (sampling.selects e.draws).1 with u | _ | _
  · rfl
  · rfl
  · exact absurd hselected unselected

theorem sink_of_record (h : e.sink = .discard) (sampling : Sampling) (d : Decision) :
    (e.record sampling d).2.sink = .discard := by
  unfold record
  rcases (sampling.selects e.draws).1 with u | _ | _
  · exact h
  · exact h
  · simp only [emit, h]
    rfl

end Session

/-- Sessions that belong together in two runs of which the second keeps no records.  What may be
refused to the first is known beforehand. -/
def Coupling.refusing (refused : Failure → Prop) : Coupling where
  session e₁ e₂ := e₁.silent = e₂.silent ∧ e₂.sink = .discard ∧ ∀ f, e₁.Fails .record f → refused f
  failure _ := True

variable {refused : Failure → Prop}

theorem Coupling.refusing_lawful : (Coupling.refusing refused).Lawful where
  device {e₁ e₂} h := by
    show e₁.silent.device = e₂.silent.device
    rw [h.1]
  log level source text := by
    intro s₁ s₂ e₁ e₂ hs he
    have hsilent := congrArg (Session.logged ⟨level, source, text⟩) he.1
    exact ⟨rfl, hs, ⟨hsilent, he.2⟩, fun _ _ => trivial⟩
  note c := by
    intro s₁ s₂ e₁ e₂ hs he
    have hsilent := congrArg (Session.noted c) he.1
    exact ⟨rfl, hs, ⟨hsilent, he.2⟩, fun _ _ => trivial⟩
  call {σ O m} hm := by
    intro s₁ s₂ e₁ e₂ hs he
    obtain ⟨hsilent, hsink, hrefused⟩ := he
    have hcall := congrArg (fun e => e.call m) hsilent
    simp only [Session.call_silent hm, Prod.mk.injEq] at hcall
    rw [Op.call_apply, Op.call_apply]
    have hfails : ∀ f, (e₁.call m).2.Fails .record f → refused f :=
      fun f hf => hrefused f ((e₁.call_after m).fails hf)
    have hkept : (e₂.call m).2.sink = .discard := by
      rw [Session.call_state]
      exact hsink
    exact ⟨hcall.1, hs, ⟨hcall.2, hkept, hfails⟩, fun _ _ => trivial⟩

/-! ## 2. Operations that record at their end -/

namespace Op

variable {σ τ α : Type} {O : σ → σ → Prop}

/-- Two runs do the same, and they have the same result unless the first was refused a record. -/
structure Trail (refused : Failure → Prop) (O : σ → σ → Prop)
    (x₁ x₂ : Except Failure Unit × σ × Session) : Prop where
  own : O x₁.2.1 x₂.2.1
  session : (Coupling.refusing refused).session x₁.2.2 x₂.2.2
  result : x₁.1 = x₂.1 ∨ ∃ f, x₁.1 = .error f ∧ refused f

def Trails (refused : Failure → Prop) (O : σ → σ → Prop) (op₁ op₂ : Op σ Unit) : Prop :=
  ∀ s₁ s₂ e₁ e₂, O s₁ s₂ → (Coupling.refusing refused).session e₁ e₂ →
    Trail refused O (op₁ (s₁, e₁)) (op₂ (s₂, e₂))

theorem Trails.of_coupled {op₁ op₂ : Op σ Unit} (h : Coupled (.refusing refused) O op₁ op₂) :
    Trails refused O op₁ op₂ := by
  intro s₁ s₂ e₁ e₂ hs he
  have hmeet := h s₁ s₂ e₁ e₂ hs he
  exact ⟨hmeet.own, hmeet.session, Or.inl hmeet.result⟩

theorem Trails.after {op₁ op₂ : Op σ α} {k₁ k₂ : α → Op σ Unit}
    (h : Coupled (.refusing refused) O op₁ op₂) (hk : ∀ a, Trails refused O (k₁ a) (k₂ a)) :
    Trails refused O (op₁ >>= k₁) (op₂ >>= k₂) := by
  intro s₁ s₂ e₁ e₂ hs he
  have hmeet := h s₁ s₂ e₁ e₂ hs he
  rw [bind_apply, bind_apply]
  rcases hx₁ : op₁ (s₁, e₁) with ⟨r₁, s₁', e₁'⟩
  rcases hx₂ : op₂ (s₂, e₂) with ⟨r₂, s₂', e₂'⟩
  rw [hx₁, hx₂] at hmeet
  have hresult : r₁ = r₂ := hmeet.result
  rw [← hresult]
  cases r₁ with
  | ok a => exact hk a s₁' s₂' e₁' e₂' hmeet.own hmeet.session
  | error f => exact ⟨hmeet.own, hmeet.session, Or.inl rfl⟩

-- A second operation is taken in both runs or in neither.
theorem Trail.next {op₁ op₂ k₁ k₂ : Op σ Unit} {x₁ x₂ : σ × Session}
    (first : Trail refused O (op₁ x₁) (op₂ x₂)) (ends : (op₁ x₁).1 = .ok () ↔ (op₂ x₂).1 = .ok ())
    (next : Trails refused O k₁ k₂) :
    Trail refused O ((op₁ >>= fun _ => k₁) x₁) ((op₂ >>= fun _ => k₂) x₂) := by
  rw [bind_apply, bind_apply]
  rcases hx₁ : op₁ x₁ with ⟨f₁ | _, s₁, e₁⟩
  · rcases hx₂ : op₂ x₂ with ⟨f₂ | _, s₂, e₂⟩
    · rw [hx₁, hx₂] at first
      exact ⟨first.own, first.session, first.result.imp (fun h => by cases h; rfl) fun ⟨f, h, hf⟩ =>
        ⟨f, by cases h; rfl, hf⟩⟩
    · rw [hx₁, hx₂] at ends
      cases ends.2 rfl
  · rcases hx₂ : op₂ x₂ with ⟨f₂ | _, s₂, e₂⟩
    · rw [hx₁, hx₂] at ends
      cases ends.1 rfl
    · rw [hx₁, hx₂] at first
      exact next s₁ s₂ e₁ e₂ first.own first.session

theorem Trails.record (sampling : Sampling) (d : Decision) :
    Trails refused O (record sampling d : Op σ Unit) (record sampling d) := by
  intro s₁ s₂ e₁ e₂ hs he
  have hafter := e₁.record_after sampling d
  rw [record_apply, record_apply]
  refine ⟨hs, ⟨?_, Session.sink_of_record he.2.1 _ _, fun f hf => he.2.2 f (hafter.fails hf)⟩, ?_⟩
  · rw [Session.silent_record, Session.silent_record, he.1]
  · have hdraws : e₁.draws = e₂.draws := by
      show e₁.silent.draws = e₂.silent.draws
      rw [he.1]
    by_cases hselected : (sampling.selects e₂.draws).1 = .ok true
    · have hkept : ¬ e₂.sink = .callback := by
        rw [he.2.1]
        nofun
      have hselected₁ : (sampling.selects e₁.draws).1 = .ok true := hdraws ▸ hselected
      rw [Session.record_of_selected hselected₁, Session.record_of_selected hselected, if_neg hkept]
      split
      · cases hcall : (e₁.call .record).1 with
        | ok _ => exact Or.inl rfl
        | error f => exact Or.inr ⟨f, rfl, he.2.2 f (Session.fails_of_call hcall)⟩
      · exact Or.inl rfl
    · exact Or.inl (Session.record_of_unselected hselected hdraws d)

theorem Trails.within {part : τ → σ} {setPart : σ → τ → τ} {W : τ → τ → Prop} {op₁ op₂ : Op σ Unit}
    (parts : ∀ t₁ t₂, W t₁ t₂ → O (part t₁) (part t₂))
    (wholes : ∀ s₁ s₂ t₁ t₂, O s₁ s₂ → W t₁ t₂ → W (setPart s₁ t₁) (setPart s₂ t₂))
    (h : Trails refused O op₁ op₂) :
    Trails refused W (within part setPart op₁) (within part setPart op₂) := by
  intro t₁ t₂ e₁ e₂ ht he
  have htrail := h _ _ e₁ e₂ (parts t₁ t₂ ht) he
  exact ⟨wholes _ _ t₁ t₂ htrail.own ht, htrail.session, htrail.result⟩

end Op

theorem Coupling.refusing_closing (c : Context) :
    (Coupling.refusing refused).Closing c c fun O => Op.Trails refused O where
  toLawful := refusing_lawful
  alike := .of_coupled
  after := .after
  record := .record c.sampling
  within := .within
  covers := .all
  wording := rfl
  renders _ _ _ _ _ := trivial

/-! ## 3. Clearing calls and messages together -/

namespace Session

variable {e e' : Session} {m : Method} {sampling : Sampling}

/-- A callback refuses the decision that is recorded next. -/
structure Refuses (e : Session) (sampling : Sampling) : Prop where
  sink : e.sink = .callback
  selected : (sampling.selects e.draws).1 = .ok true
  refused : ¬ e.Answers .record 1

theorem record_congr (draws : e'.draws = e.draws) (sink : e'.sink = e.sink)
    (faults : e'.faults .record = e.faults .record) (d : Decision) :
    (e'.record sampling d).1 = (e.record sampling d).1 := by
  by_cases hselected : (sampling.selects e.draws).1 = .ok true
  · have hselected' : (sampling.selects e'.draws).1 = .ok true := draws ▸ hselected
    rw [record_of_selected hselected, record_of_selected hselected', sink, call_congr faults]
  · exact record_of_unselected hselected draws d

theorem record_of_refuses (refuses : e.Refuses sampling) (d : Decision) :
    (∃ f, (e.record sampling d).1 = .error f ∧ e.Fails .record f) ∧
      (e.unheard.record sampling d).1 = .ok () := by
  have hunheard : (sampling.selects e.unheard.draws).1 = .ok true := refuses.selected
  have hkept : ¬ e.unheard.sink = .callback := nofun
  obtain ⟨f, hf⟩ := call_of_not_answers refuses.refused
  rw [record_of_selected refuses.selected, record_of_selected hunheard, if_pos refuses.sink,
    if_neg hkept]
  exact ⟨⟨f, hf, fails_of_call hf⟩, rfl⟩

theorem record_of_not_refuses (accepts : ¬ e.Refuses sampling) (d : Decision) :
    (e.record sampling d).1 = (e.unheard.record sampling d).1 := by
  by_cases hselected : (sampling.selects e.draws).1 = .ok true
  · have hunheard : (sampling.selects e.unheard.draws).1 = .ok true := hselected
    have hkept : ¬ e.unheard.sink = .callback := nofun
    rw [record_of_selected hselected, record_of_selected hunheard, if_neg hkept]
    split
    · rename_i hsink
      by_cases hanswers : e.Answers .record 1
      · exact call_of_answers hanswers
      · exact absurd ⟨hsink, hselected, hanswers⟩ accepts
    · rfl
  · have hdraws : e.unheard.draws = e.draws := rfl
    exact (record_of_unselected hselected hdraws d).symm

end Session

namespace Blocked

variable {c : Context} {m : Medium} {h : History} {e : Session} {mask : Mask}

theorem cancel_apply (address : Address) (h : History) (e : Session) :
    (Delivery.cancel address : Op History Unit) (h, e) =
      match e.call .cancel with
      | (.error f, e') => (.error f, h, e')
      | (.ok _, e') => (.ok (), h, e'.noted (.cancel address allUsers)) := by
  unfold Delivery.cancel Op.cancel
  rw [Op.bind_apply, Op.call_apply]
  rcases e.call .cancel with ⟨_ | _, e'⟩ <;> rfl

theorem clearMedium_apply (c : Context) (m : Medium) (h : History) (e : Session) :
    clearMedium c m (h, e) =
      match (e.logged ⟨.debug, .desk,
        s!"[{m.topic.name}] Cleared {(h.events m).length} blocked events"⟩).call .cancel with
      | (.error f, e') => (.error f, h.clear m, e')
      | (.ok _, e') =>
        let recorded := (e'.noted (.cancel { topic := m.topic } allUsers)).record c.sampling
          { topic := m.topic, outcome := .cancelled }
        (recorded.1, h.clear m, recorded.2) := by
  have hforget : forget m (h, e) = (.ok (h.events m).length, h.clear m, e) := rfl
  unfold clearMedium
  rw [Op.bind_apply, hforget]
  dsimp only
  rw [Op.bind_apply]
  show (Delivery.cancel { topic := m.topic } >>= fun _ => Op.record c.sampling _ : Op History Unit)
    (h.clear m, e.logged _) = _
  rw [Op.bind_apply, cancel_apply]
  rcases (e.logged _).call .cancel with ⟨_ | _, e'⟩
  · rfl
  · exact Op.record_apply _ _ _

theorem own_of_clearMedium (c : Context) (m : Medium) (h : History) (e : Session) :
    (clearMedium c m (h, e)).2.1 = h.clear m := by
  rw [clearMedium_apply]
  rcases (e.logged _).call .cancel with ⟨_ | _, e'⟩ <;> rfl

/-- Where the cancellation is answered, a medium is cleared as its record is taken. -/
theorem clearMedium_cancelled (c : Context) (m : Medium) (h : History)
    (answers : e.Answers .cancel 1) :
    (clearMedium c m (h, e)).1 =
        (e.record c.sampling { topic := m.topic, outcome := .cancelled }).1 ∧
      (clearMedium c m (h, e)).2.2.journal.calls =
        e.journal.calls ++ [.cancel { topic := m.topic } allUsers] ∧
      ∀ n, (clearMedium c m (h, e)).2.2.Answers .cancel n ↔ e.Answers .cancel (n + 1) := by
  rw [clearMedium_apply]
  generalize (⟨.debug, .desk, _⟩ : LogRow) = row
  have hanswers : (e.logged row).Answers .cancel 1 := answers
  have hcall := Session.call_of_answers hanswers
  have hnext := Session.answers_call hanswers
  have hafter := (e.logged row).call_after .cancel
  have hstate := (e.logged row).call_state .cancel
  rcases hx : (e.logged row).call .cancel with ⟨r, e'⟩
  rw [hx] at hcall hnext hafter hstate
  obtain rfl : r = .ok () := hcall
  refine ⟨?_, ?_, fun n => ?_⟩
  · show ((e'.noted _).record _ _).1 = _
    obtain rfl : e' = { e.logged row with faults := (e.logged row).nearer .cancel } := hstate
    apply Session.record_congr <;> rfl
  · show ((e'.noted _).record _ _).2.journal.calls = _
    rw [(Session.record_after _ _ _).calls, List.append_nil]
    show e'.journal.calls ++ _ = _
    rw [hafter.calls, List.append_nil]
    rfl
  · show ((e'.noted _).record _ _).2.Answers .cancel n ↔ _
    unfold Session.Answers
    rw [Session.record_faults (by decide)]
    exact hnext n

theorem clearMedium_uncancelled (c : Context) (m : Medium) (h : History)
    (fails : ¬ e.Answers .cancel 1) :
    (∃ f, (clearMedium c m (h, e)).1 = .error f) ∧
      (clearMedium c m (h, e)).2.2.journal.calls = e.journal.calls := by
  rw [clearMedium_apply]
  generalize (⟨.debug, .desk, _⟩ : LogRow) = row
  have hfails : ¬ (e.logged row).Answers .cancel 1 := fails
  have hcall := Session.call_of_not_answers hfails
  have hafter := (e.logged row).call_after .cancel
  obtain ⟨f, hcall⟩ := hcall
  rcases hx : (e.logged row).call .cancel with ⟨r, e'⟩
  rw [hx] at hcall hafter
  obtain rfl : r = .error f := hcall
  refine ⟨⟨f, rfl⟩, ?_⟩
  show e'.journal.calls = _
  rw [hafter.calls, List.append_nil]
  rfl

theorem media_cases (mask : Mask) :
    mask.media = [] ∨ (∃ m, mask.media = [m]) ∨ mask.media = [.call, .message] := by
  unfold Mask.media
  cases hcall : mask.selects .call with
  | true =>
    cases hmessage : mask.selects .message with
    | true => simp [hcall, hmessage]
    | false => simp [hcall, hmessage]
  | false =>
    cases hmessage : mask.selects .message with
    | true => simp [hcall, hmessage]
    | false => simp [hcall, hmessage]

theorem clearSelected_both (both : mask.media = [.call, .message]) :
    clearSelected c mask = (clearMedium c .call >>= fun _ => clearMedium c .message) := by
  unfold clearSelected
  rw [both]
  show (clearMedium c .call >>= fun _ => clearMedium c .message >>= fun _ => pure ()) = _
  rw [bind_pure_unit]

variable {refused : Failure → Prop}

theorem clearSelected_trails (single : mask.media ≠ [.call, .message]) :
    Op.Trails refused Eq (clearSelected c mask) (clearSelected c mask) := by
  have hclosing : (Coupling.refusing refused).Closing c c fun O => Op.Trails refused O :=
    Coupling.refusing_closing c
  unfold clearSelected
  rcases media_cases mask with hmedia | ⟨m, hmedia⟩ | hmedia
  · rw [hmedia]
    exact .of_coupled (.pure _)
  · rw [hmedia]
    show Op.Trails refused Eq (clearMedium c m >>= fun _ => pure ())
      (clearMedium c m >>= fun _ => pure ())
    rw [bind_pure_unit]
    exact clearMedium_closing hclosing m
  · exact absurd hmedia single

theorem clear_trails {given : Datum} (single : ∀ mask, Mask.ofDatum given = .ok mask →
    mask.media ≠ [.call, .message]) :
    Op.Trails refused Eq (clear c given) (clear c given) := by
  cases hmask : Mask.ofDatum given with
  | error cause =>
    rw [clear_of_refused hmask]
    exact .of_coupled fun _ _ _ _ hs he => ⟨rfl, hs, he, fun _ _ => trivial⟩
  | ok mask =>
    rw [clear_of_mask hmask]
    exact clearSelected_trails (single mask hmask)

theorem clearSelected_trail (both : mask.media = [.call, .message])
    (whole : e.Refuses c.sampling → ¬ e.Answers .cancel 1) :
    Op.Trail (e.Fails .record) Eq (clearSelected c mask (h, e))
      (clearSelected c mask (h, e.unheard)) := by
  have hclosing : (Coupling.refusing (e.Fails .record)).Closing c c
      fun O => Op.Trails (e.Fails .record) O := Coupling.refusing_closing c
  have hfirst := clearMedium_closing hclosing .call h h e e.unheard rfl ⟨rfl, rfl, fun _ hf => hf⟩
  rw [clearSelected_both both]
  refine hfirst.next ?_ (clearMedium_closing hclosing .message)
  by_cases hanswers : e.Answers .cancel 1
  · have hunheard : e.unheard.Answers .cancel 1 := hanswers
    have haccepts : ¬ e.Refuses c.sampling := fun refuses => whole refuses hanswers
    rw [(clearMedium_cancelled c .call h hanswers).1, (clearMedium_cancelled c .call h hunheard).1,
      Session.record_of_not_refuses haccepts]
  · have hunheard : ¬ e.unheard.Answers .cancel 1 := hanswers
    obtain ⟨f, hf⟩ := (clearMedium_uncancelled c .call h hanswers).1
    obtain ⟨g, hg⟩ := (clearMedium_uncancelled c .call h hunheard).1
    rw [hf, hg]
    exact iff_of_false nofun nofun

/-- A record that is refused after the calls were cleared keeps the messages from being cleared. -/
theorem clearSelected_halfway (both : mask.media = [.call, .message])
    (refuses : e.Refuses c.sampling) (answers : e.Answers .cancel 1) :
    (∃ f, (clearSelected c mask (h, e)).1 = .error f ∧ e.Fails .record f) ∧
      (clearSelected c mask (h, e)).2.1 = h.clear .call ∧
      (clearSelected c mask (h, e.unheard)).2.1 = (h.clear .call).clear .message ∧
      ((clearSelected c mask (h, e)).2.2.journal.calls =
        (clearSelected c mask (h, e.unheard)).2.2.journal.calls ↔ ¬ e.Answers .cancel 2) := by
  have hunheard : e.unheard.Answers .cancel 1 := answers
  obtain ⟨hresult₁, hcalls₁, -⟩ := clearMedium_cancelled c .call h answers
  obtain ⟨hresult₂, hcalls₂, hanswers₂⟩ := clearMedium_cancelled c .call h hunheard
  obtain ⟨⟨f, hrefused, hf⟩, haccepted⟩ := Session.record_of_refuses refuses
    { topic := Medium.call.topic, outcome := .cancelled }
  have hown₁ := own_of_clearMedium c .call h e
  have hown₂ := own_of_clearMedium c .call h e.unheard
  rw [hrefused] at hresult₁
  rw [haccepted] at hresult₂
  rw [clearSelected_both both, Op.bind_apply, Op.bind_apply]
  rcases hx₁ : clearMedium c .call (h, e) with ⟨r₁, h₁, e₁⟩
  rcases hx₂ : clearMedium c .call (h, e.unheard) with ⟨r₂, h₂, e₂⟩
  rw [hx₁] at hresult₁ hcalls₁ hown₁
  rw [hx₂] at hresult₂ hcalls₂ hanswers₂ hown₂
  obtain rfl : r₁ = .error f := hresult₁
  obtain rfl : r₂ = .ok () := hresult₂
  obtain rfl : h₁ = h.clear .call := hown₁
  obtain rfl : h₂ = h.clear .call := hown₂
  have hsame : e₁.journal.calls = e₂.journal.calls := hcalls₁.trans hcalls₂.symm
  have hnext : e₂.Answers .cancel 1 ↔ e.Answers .cancel 2 := hanswers₂ 1
  refine ⟨⟨f, rfl, hf⟩, rfl, own_of_clearMedium _ _ _ _, ?_⟩
  show e₁.journal.calls = (clearMedium c .message (h.clear .call, e₂)).2.2.journal.calls ↔ _
  rw [← hnext, hsame]
  by_cases hcancels : e₂.Answers .cancel 1
  · rw [(clearMedium_cancelled c .message _ hcancels).2.1]
    exact iff_of_false (by simp) (fun h => h hcancels)
  · rw [(clearMedium_uncancelled c .message _ hcancels).2]
    exact iff_of_true rfl hcancels

end Blocked

/-! ## 4. Requests -/

namespace Desk

/-- Calls and messages are cleared together, the calls are, a callback refuses the record of it,
and there is something left to do about the messages. -/
structure StopsHalfway (d : Desk) (e : Session) (given : Datum) : Prop where
  both : ∃ mask, Mask.ofDatum given = .ok mask ∧ mask.media = [.call, .message]
  refuses : e.Refuses d.settings.tracing
  cancels : e.Answers .cancel 1
  more : d.history.messages ≠ [] ∨ e.Answers .cancel 2

variable {d : Desk} {e : Session} {given : Datum} {mask : Mask}

theorem perform_clearBlocked (selected : Mask.ofDatum given = .ok mask) (d : Desk) (e : Session) :
    perform (.clearBlocked given) (d, e) =
      let cleared := Blocked.clearSelected d.context mask (d.history, e)
      (cleared.1, { d with history := cleared.2.1 }, cleared.2.2) := by
  rw [← Blocked.clear_of_mask selected]
  rfl

theorem perform_trail (request : Request)
    (whole : ∀ given mask, request = .clearBlocked given → Mask.ofDatum given = .ok mask →
      mask.media = [.call, .message] → e.Refuses d.settings.tracing → ¬ e.Answers .cancel 1) :
    Op.Trail (e.Fails .record) Alike (perform request (d, e)) (perform request (d, e.unheard)) := by
  have hclosing : (Coupling.refusing (e.Fails .record)).Closing d.context d.context
      fun O => Op.Trails (e.Fails .record) O := Coupling.refusing_closing d.context
  by_cases hboth : ∃ given mask, request = .clearBlocked given ∧ Mask.ofDatum given = .ok mask ∧
      mask.media = [.call, .message]
  · obtain ⟨given, mask, rfl, selected, both⟩ := hboth
    have htrail := Blocked.clearSelected_trail (h := d.history) (c := d.context) both
      (whole given mask rfl selected both)
    rw [perform_clearBlocked selected, perform_clearBlocked selected]
    refine ⟨?_, htrail.session, htrail.result⟩
    show Alike { d with history := _ } { d with history := _ }
    rw [htrail.own]
    rfl
  · refine answer_closing hclosing rfl request ?_ d d e e.unheard rfl ⟨rfl, rfl, fun _ hf => hf⟩
    intro given hgiven
    exact Blocked.clear_trails fun mask selected both => hboth ⟨given, mask, hgiven, selected, both⟩

theorem eq_of_alike {d₁ d₂ : Desk} (alike : d₁.Alike d₂)
    (settings : d₁.settings = d₂.settings) : d₁ = d₂ := by
  obtain ⟨settings₁, voiceCapable₁, wording₁, history₁, voicemail₁, forwarding₁, shown₁⟩ := d₁
  obtain ⟨settings₂, voiceCapable₂, wording₂, history₂, voicemail₂, forwarding₂, shown₂⟩ := d₂
  simp only [Alike, untraced, mk.injEq] at alike settings
  simp only [mk.injEq]
  exact ⟨settings, alike.2⟩

theorem clear_message_eq_iff (h : History) :
    h.clear .call = (h.clear .call).clear .message ↔ h.messages = [] := by
  constructor
  · intro hclear
    exact congrArg History.messages hclear
  · intro hempty
    show ({ calls := [], messages := h.messages } : History) = { calls := [], messages := [] }
    rw [hempty]

-- What such a run leaves out is what there was left to do.
theorem halfway_iff (selected : Mask.ofDatum given = .ok mask)
    (both : mask.media = [.call, .message]) (refuses : e.Refuses d.settings.tracing)
    (cancels : e.Answers .cancel 1) :
    let heard := (perform (.clearBlocked given)).report (d, e)
    let unheard := (perform (.clearBlocked given)).report (d, e.unheard)
    (heard.1.journal.calls = unheard.1.journal.calls ∧ heard.2.1 = unheard.2.1 ↔
      ¬ (d.history.messages ≠ [] ∨ e.Answers .cancel 2)) ∧
    ∃ f, heard.1.result = .error f ∧ e.Fails .record f := by
  intro heard unheard
  have hblank : e.blank.Refuses d.context.sampling :=
    ⟨refuses.sink, refuses.selected, refuses.refused⟩
  have hheard₀ := perform_clearBlocked selected d e.blank
  have hunheard₀ := perform_clearBlocked selected d e.unheard.blank
  obtain ⟨hresult, hheard, hunheard, hcalls⟩ :=
    Blocked.clearSelected_halfway (h := d.history) both hblank cancels
  have hdesks : heard.2.1 = unheard.2.1 ↔ d.history.messages = [] := by
    have hleft : heard.2.1 = { d with history := d.history.clear .call } :=
      (congrArg (·.2.1) hheard₀).trans (congrArg (fun history => { d with history }) hheard)
    have hright : unheard.2.1 = { d with history := (d.history.clear .call).clear .message } :=
      (congrArg (·.2.1) hunheard₀).trans (congrArg (fun history => { d with history }) hunheard)
    rw [hleft, hright, ← clear_message_eq_iff]
    constructor
    · exact congrArg Desk.history
    · exact congrArg fun history => { d with history }
  have hcalls₁ : heard.1.journal.calls = _ := congrArg (·.2.2.journal.calls) hheard₀
  have hcalls₂ : unheard.1.journal.calls = _ := congrArg (·.2.2.journal.calls) hunheard₀
  have hresult₁ : heard.1.result = _ := congrArg (·.1) hheard₀
  rw [hdesks, not_or, not_not, hcalls₁, hcalls₂, hresult₁]
  exact ⟨(and_congr_left' hcalls).trans and_comm, hresult⟩

/-- A callback that refuses a record changes nothing that a request does at the desk and at the
host, unless it stops the clearing of calls and messages halfway.  The result is the same too, or
it is the refusal. -/
theorem refusal_harmless_iff (d : Desk) (e : Session) (request : Request) :
    let heard := (perform request).report (d, e)
    let unheard := (perform request).report (d, e.unheard)
    (heard.1.journal.calls = unheard.1.journal.calls ∧ heard.2.1 = unheard.2.1 ↔
      ¬ ∃ given, request = .clearBlocked given ∧ StopsHalfway d e given) ∧
    (heard.1.result = unheard.1.result ∨ ∃ f, heard.1.result = .error f ∧ e.Fails .record f) := by
  intro heard unheard
  by_cases halfway : ∃ given mask, request = .clearBlocked given ∧ Mask.ofDatum given = .ok mask ∧
      mask.media = [.call, .message] ∧ e.Refuses d.settings.tracing ∧ e.Answers .cancel 1
  · obtain ⟨given, mask, rfl, selected, both, refuses, cancels⟩ := halfway
    have hstops : (∃ given', Request.clearBlocked given = .clearBlocked given' ∧
        StopsHalfway d e given') ↔ d.history.messages ≠ [] ∨ e.Answers .cancel 2 := by
      constructor
      · intro h
        obtain ⟨given', -, stops⟩ := h
        exact stops.more
      · intro more
        exact ⟨given, rfl, ⟨mask, selected, both⟩, refuses, cancels, more⟩
    have hhalfway := halfway_iff selected both refuses cancels
    rw [hstops]
    exact ⟨hhalfway.1, Or.inr hhalfway.2⟩
  · have hblank : ∀ given mask, request = .clearBlocked given → Mask.ofDatum given = .ok mask →
        mask.media = [.call, .message] → e.blank.Refuses d.settings.tracing →
          ¬ e.blank.Answers .cancel 1 := by
      intro given mask hgiven selected both refuses cancels
      exact halfway ⟨given, mask, hgiven, selected, both,
        ⟨refuses.sink, refuses.selected, refuses.refused⟩, cancels⟩
    have htrail := perform_trail request hblank
    have hsettings₁ := settings_of_does (report_does request (d, e))
    have hsettings₂ := settings_of_does (report_does request (d, e.unheard))
    have hdesks : heard.2.1 = unheard.2.1 :=
      eq_of_alike htrail.own (hsettings₁.trans hsettings₂.symm)
    have hcalls : heard.1.journal.calls = unheard.1.journal.calls :=
      congrArg (fun e => e.journal.calls) htrail.session.1
    refine ⟨iff_of_true ⟨hcalls, hdesks⟩ ?_, htrail.result⟩
    intro h
    obtain ⟨given, hgiven, stops⟩ := h
    obtain ⟨mask, selected, both⟩ := stops.both
    exact halfway ⟨given, mask, hgiven, selected, both, stops.refuses, stops.cancels⟩

/-- A message was blocked, and every record is refused. -/
def unwelcome : Desk × Session :=
  ({ fresh with
      settings := { tracing := { enabled := true } }
      history := { messages := [⟨"5551234", twoUsers.now, .list⟩] } },
    { device := twoUsers
      faults := fun m => if m = .record then some ⟨0, .collaborator .record⟩ else none })

theorem refusal_harmless_iff_unwelcome :
    let (d, e) := unwelcome
    let heard := (perform (.clearBlocked (.int 3))).report (d, e)
    let unheard := (perform (.clearBlocked (.int 3))).report (d, e.unheard)
    StopsHalfway d e (.int 3) ∧
      ¬ (heard.1.journal.calls = unheard.1.journal.calls ∧ heard.2.1 = unheard.2.1) ∧
      heard.1.journal.calls = [.cancel { topic := .blockedCall } allUsers] ∧
      unheard.1.journal.calls = [.cancel { topic := .blockedCall } allUsers,
        .cancel { topic := .blockedMessage } allUsers] ∧
      heard.2.1.history = d.history ∧ unheard.2.1.history = {} := by
  have stops : StopsHalfway unwelcome.1 unwelcome.2 (.int 3) := by
    have selected : Mask.ofDatum (.int 3) = .ok ⟨3⟩ :=
      toOption_eq_some.1 (by decide +kernel)
    refine ⟨⟨_, selected, by decide⟩, ⟨rfl, rfl, fun h => ?_⟩, nofun, Or.inl (by decide)⟩
    have hafter : 1 ≤ 0 := h _ rfl
    exact absurd hafter (by decide)
  have different := (refusal_harmless_iff unwelcome.1 unwelcome.2 (.clearBlocked (.int 3))).1
  refine ⟨stops, fun same => different.1 same ⟨_, rfl, stops⟩, ?_⟩
  decide +kernel

end Desk

end TelephonyAlerts
