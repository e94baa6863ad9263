import TelephonyAlerts.Proofs.Alerts
import TelephonyAlerts.Proofs.Operation

/-!
# Two runs of one operation

A coupling relates the sessions of two runs and says which failures may end them.  What it asks of
the basic operations carries over to every request: the two runs give the same result and leave
states that are related again.  With a session related to itself this speaks of single runs.

Requests, apart from one that clears calls and messages together, record their decision when all
else is done.  What is said of two runs may therefore allow for a record that one of them alone
takes: `Coupling.Closing` is what such a relation has to satisfy, and ending alike is one.
-/

namespace TelephonyAlerts

open TelephonyAlerts.Data TelephonyAlerts.Template

/-! ## 1. Couplings -/

/-- Kinds that count every failure but those of the host's methods and of templates. -/
structure Covers (S : Failure → Prop) : Prop where
  unresolved : ∀ cause, S (.unresolved cause)
  unwritable : ∀ cause, S (.unwritable cause)
  notAMember : ∀ cause, S (.notAMember cause)
  sampling : ∀ cause, S (.sampling cause)

theorem Covers.all : Covers fun _ => True := by constructor <;> exact fun _ => trivial

theorem Covers.notFound {S : Failure → Prop} (covers : Covers S) (kind : String) (ref : Datum) :
    S (.notFound kind ref) := by
  unfold Failure.notFound
  split
  · exact covers.unresolved _
  · exact covers.unwritable _

theorem Covers.require {S : Failure → Prop} {α : Type} (covers : Covers S) {value : Option α}
    {kind : String} {ref : Datum} {f : Failure} (h : require value kind ref = .error f) : S f := by
  cases value with
  | some a => cases h
  | none => exact Except.error.inj h ▸ covers.notFound kind ref

/-- Which sessions belong together in two runs, and how the runs may fail. -/
structure Coupling where
  session : Session → Session → Prop
  failure : Failure → Prop

namespace Op

variable {σ τ α β : Type} {C : Coupling} {O : σ → σ → Prop}

/-- Two runs end alike: with the same result, which is no failure that is excluded. -/
structure Meet (C : Coupling) (O : σ → σ → Prop) (x₁ x₂ : Except Failure α × σ × Session) :
    Prop where
  result : x₁.1 = x₂.1
  own : O x₁.2.1 x₂.2.1
  session : C.session x₁.2.2 x₂.2.2
  fails : ∀ f, x₁.1 = .error f → C.failure f

/-- Two operations end alike where they start alike. -/
def Coupled (C : Coupling) (O : σ → σ → Prop) (op₁ op₂ : Op σ α) : Prop :=
  ∀ s₁ s₂ e₁ e₂, O s₁ s₂ → C.session e₁ e₂ → Meet C O (op₁ (s₁, e₁)) (op₂ (s₂, e₂))

theorem Coupled.bind {op₁ op₂ : Op σ α} {k₁ k₂ : α → Op σ β} (h : Coupled C O op₁ op₂)
    (hk : ∀ a, Coupled C O (k₁ a) (k₂ a)) : Coupled C O (op₁ >>= k₁) (op₂ >>= k₂) := by
  intro s₁ s₂ e₁ e₂ hs he
  obtain ⟨result, own, session, fails⟩ := h s₁ s₂ e₁ e₂ hs he
  rw [bind_apply, bind_apply]
  rcases hx₁ : op₁ (s₁, e₁) with ⟨r₁, s₁', e₁'⟩
  rcases hx₂ : op₂ (s₂, e₂) with ⟨r₂, s₂', e₂'⟩
  rw [hx₁, hx₂] at result own session
  rw [hx₁] at fails
  obtain rfl : r₁ = r₂ := result
  cases r₁ with
  | ok a => exact hk a s₁' s₂' e₁' e₂' own session
  | error f => exact ⟨rfl, own, session, fun f' hf' => fails f' (by rw [Except.error.inj hf'])⟩

theorem Coupled.pure (a : α) : Coupled C O (Pure.pure a : Op σ α) (Pure.pure a) :=
  fun _ _ _ _ hs he => ⟨rfl, hs, he, nofun⟩

theorem Coupled.own : Coupled C Eq (own : Op σ σ) own :=
  fun _ _ _ _ hs he => ⟨congrArg Except.ok hs, hs, he, nofun⟩

theorem Coupled.reading {k₁ k₂ : σ → Op σ β}
    (hk : ∀ s₁ s₂, O s₁ s₂ → Coupled C O (k₁ s₁) (k₂ s₂)) :
    Coupled C O (Op.own >>= k₁) (Op.own >>= k₂) :=
  fun s₁ s₂ e₁ e₂ hs he => hk s₁ s₂ hs s₁ s₂ e₁ e₂ hs he

theorem Coupled.modifying {f : σ → σ} (keeps : ∀ s₁ s₂, O s₁ s₂ → O (f s₁) (f s₂)) :
    Coupled C O (Op.modifyOwn f) (Op.modifyOwn f) :=
  fun s₁ s₂ _ _ hs he => ⟨rfl, keeps s₁ s₂ hs, he, nofun⟩

theorem Coupled.modifyOwn (f : σ → σ) : Coupled C Eq (modifyOwn f) (modifyOwn f) :=
  .modifying fun _ _ => congrArg f

theorem Coupled.ofExcept {ε : Type} {failure : ε → Failure} {r : Except ε α}
    (h : ∀ cause, r = .error cause → C.failure (failure cause)) :
    Coupled C O (ofExcept failure r : Op σ α) (ofExcept failure r) := by
  intro s₁ s₂ e₁ e₂ hs he
  rw [ofExcept_apply, ofExcept_apply]
  refine ⟨rfl, hs, he, fun f hf => ?_⟩
  cases r with
  | ok a => cases hf
  | error cause => exact Except.error.inj hf ▸ h cause rfl

theorem Coupled.ofRender {x₁ x₂ : Except RenderError α} (same : x₁ = x₂)
    (made : FailsOnly (fun cause => C.failure (.render cause)) x₁) :
    Coupled C O (ofRender x₁ : Op σ α) (ofRender x₂) :=
  same ▸ .ofExcept made

theorem Coupled.resolving {op₁ op₂ : Op σ α} (h : Coupled C O op₁ op₂) :
    Coupled C O (resolving op₁) (resolving op₂) := by
  intro s₁ s₂ e₁ e₂ hs he
  obtain ⟨result, own, session, fails⟩ := h s₁ s₂ e₁ e₂ hs he
  simp only [Op.resolving, tryCatch_apply, bind_apply]
  rcases hx₁ : op₁ (s₁, e₁) with ⟨r₁, s₁', e₁'⟩
  rcases hx₂ : op₂ (s₂, e₂) with ⟨r₂, s₂', e₂'⟩
  rw [hx₁, hx₂] at result own session
  rw [hx₁] at fails
  obtain rfl : r₁ = r₂ := result
  cases r₁ with
  | ok a => exact ⟨rfl, own, session, fun _ hf => by cases hf⟩
  | error f =>
    -- an unresolved reference becomes an answer, any other failure is thrown again
    cases f with
    | unresolved u => exact ⟨rfl, own, session, fun _ hf => by cases hf⟩
    | _ => exact ⟨rfl, own, session, fun f' hf' => fails f' (by rw [← Except.error.inj hf'])⟩

theorem Coupled.forM {op₁ op₂ : α → Op σ Unit} (h : ∀ a, Coupled C O (op₁ a) (op₂ a)) :
    ∀ l : List α, Coupled C O (l.forM op₁) (l.forM op₂)
  | [] => .pure _
  | a :: rest => .bind (h a) fun _ => forM h rest

-- Operations on parts that are related, in wholes that are related.
theorem Coupled.within {part : τ → σ} {setPart : σ → τ → τ} {W : τ → τ → Prop} {op₁ op₂ : Op σ α}
    (parts : ∀ t₁ t₂, W t₁ t₂ → O (part t₁) (part t₂))
    (wholes : ∀ s₁ s₂ t₁ t₂, O s₁ s₂ → W t₁ t₂ → W (setPart s₁ t₁) (setPart s₂ t₂))
    (h : Coupled C O op₁ op₂) :
    Coupled C W (within part setPart op₁) (within part setPart op₂) := by
  intro t₁ t₂ e₁ e₂ ht he
  obtain ⟨result, own, session, fails⟩ := h _ _ e₁ e₂ (parts t₁ t₂ ht) he
  exact ⟨result, wholes _ _ t₁ t₂ own ht, session, fails⟩

end Op

/-- The same calls and log rows keep sessions related. -/
structure Coupling.Steady (C : Coupling) : Prop where
  log : ∀ {σ : Type} {O : σ → σ → Prop} (level source text),
    Op.Coupled C O (Op.log level source text : Op σ Unit) (Op.log level source text)
  note : ∀ {σ : Type} {O : σ → σ → Prop} (c),
    Op.Coupled C O (Op.note c : Op σ Unit) (Op.note c)
  call : ∀ {σ : Type} {O : σ → σ → Prop} {m}, m ≠ .record →
    Op.Coupled C O (Op.call m : Op σ Unit) (Op.call m)

/-- Related sessions stand at the same device, and the same calls and log rows keep them
related. -/
structure Coupling.Lawful (C : Coupling) : Prop extends C.Steady where
  device : ∀ {e₁ e₂}, C.session e₁ e₂ → e₁.device = e₂.device

/-- Operations with two contexts end alike: the contexts have the same wording, and what they
record keeps sessions related. -/
structure Coupling.Ties (C : Coupling) (c₁ c₂ : Context) : Prop extends C.Lawful where
  record : ∀ {σ : Type} {O : σ → σ → Prop} (d),
    Op.Coupled C O (Op.record c₁.sampling d : Op σ Unit) (Op.record c₂.sampling d)
  covers : Covers C.failure
  wording : c₁.wording = c₂.wording
  renders : c₁.wording.FailsOnly fun cause => C.failure (.render cause)

/-- Operations with two contexts compare as `P` says if they end alike, or do so up to a last
decision that both record. -/
structure Coupling.Closing (C : Coupling) (c₁ c₂ : Context)
    (P : ∀ {σ : Type}, (σ → σ → Prop) → Op σ Unit → Op σ Unit → Prop) : Prop
    extends C.Lawful where
  alike : ∀ {σ : Type} {O : σ → σ → Prop} {op₁ op₂ : Op σ Unit},
    Op.Coupled C O op₁ op₂ → P O op₁ op₂
  after : ∀ {σ α : Type} {O : σ → σ → Prop} {op₁ op₂ : Op σ α} {k₁ k₂ : α → Op σ Unit},
    Op.Coupled C O op₁ op₂ → (∀ a, P O (k₁ a) (k₂ a)) → P O (op₁ >>= k₁) (op₂ >>= k₂)
  record : ∀ {σ : Type} {O : σ → σ → Prop} (d),
    P O (Op.record c₁.sampling d : Op σ Unit) (Op.record c₂.sampling d)
  within : ∀ {σ τ : Type} {O : σ → σ → Prop} {W : τ → τ → Prop} {part : τ → σ}
    {setPart : σ → τ → τ} {op₁ op₂ : Op σ Unit}, (∀ t₁ t₂, W t₁ t₂ → O (part t₁) (part t₂)) →
    (∀ s₁ s₂ t₁ t₂, O s₁ s₂ → W t₁ t₂ → W (setPart s₁ t₁) (setPart s₂ t₂)) → P O op₁ op₂ →
    P W (Op.within part setPart op₁) (Op.within part setPart op₂)
  covers : Covers C.failure
  wording : c₁.wording = c₂.wording
  renders : c₁.wording.FailsOnly fun cause => C.failure (.render cause)

theorem Coupling.Ties.closing {C : Coupling} {c₁ c₂ : Context} (ties : C.Ties c₁ c₂) :
    C.Closing c₁ c₂ fun O => Op.Coupled C O where
  toLawful := ties.toLawful
  alike h := h
  after h hk := .bind h hk
  record := ties.record
  within := .within
  covers := ties.covers
  wording := ties.wording
  renders := ties.renders

/-! ## 2. The host -/

namespace Op

variable {σ α : Type} {C : Coupling} {O : σ → σ → Prop} (lawful : C.Lawful)
include lawful

theorem Coupled.device : Coupled C O (device : Op σ Device) device :=
  fun _ _ _ _ hs he => ⟨congrArg Except.ok (lawful.device he), hs, he, nofun⟩

theorem Coupled.phone (covers : Covers C.failure) (line : Int) :
    Coupled C O (phone line : Op σ Phone) (phone line) :=
  .bind (lawful.call (by decide)) fun _ => .bind (.device lawful) fun _ =>
    .ofExcept fun _ => covers.require

theorem Coupled.line (covers : Covers C.failure) (key : Int) :
    Coupled C O (line key : Op σ Line) (line key) :=
  .bind (lawful.call (by decide)) fun _ => .bind (.device lawful) fun _ =>
    .ofExcept fun _ => covers.require

theorem Coupled.preference (unwritable : ∀ cause, C.failure (.unwritable cause))
    (key : Except Number.TooManyDigits String) :
    Coupled C O (preference key : Op σ String) (preference key) :=
  .bind (.ofExcept fun cause _ => unwritable cause) fun _ =>
    .bind (lawful.call (by decide)) fun _ => .bind (.device lawful) fun _ => .pure _

theorem Coupled.profiles : Coupled C O (profiles : Op σ (List Profile)) profiles :=
  .bind (lawful.call (by decide)) fun _ => .bind (.device lawful) fun _ => .pure _

end Op

namespace Delivery

variable {σ : Type} {C : Coupling} {O : σ → σ → Prop}

theorem presentTo_coupled (steady : C.Steady) (address : Address) (alert : Alert) (o : Bool) :
    ∀ ps : List Profile, Op.Coupled C O (presentTo address alert o ps : Op σ (List Int))
      (presentTo address alert o ps)
  | [] => .pure _
  | p :: rest => by
    unfold presentTo
    split
    · exact .bind (.bind (steady.call (by decide)) fun _ => steady.note _) fun _ =>
        .bind (presentTo_coupled steady address alert o rest) fun _ => .pure _
    · exact .bind (steady.log _ _ _) fun _ => presentTo_coupled steady address alert o rest

theorem present_coupled (lawful : C.Lawful) (address : Address) (alert : Alert) (o : Bool) :
    Op.Coupled C O (present address alert o : Op σ (List Int)) (present address alert o) :=
  .bind (.profiles lawful) fun ps => presentTo_coupled lawful.toSteady _ _ _ ps

theorem cancel_coupled (steady : C.Steady) (address : Address) :
    Op.Coupled C O (cancel address : Op σ Unit) (cancel address) :=
  .bind (steady.call (by decide)) fun _ => steady.note _

end Delivery

theorem Operator.chosen_coupled {σ : Type} {C : Coupling} {O : σ → σ → Prop} (lawful : C.Lawful)
    (unwritable : ∀ cause, C.failure (.unwritable cause)) (line : Int) :
    Op.Coupled C O (Device.chosenOperator Op.preference line : Op σ String)
      (Device.chosenOperator Op.preference line) := by
  refine .bind (.preference lawful unwritable _) fun name => ?_
  split
  · exact .preference lawful unwritable _
  · exact .pure _

/-! ## 3. Requests -/

section Requests

variable {σ : Type} {O : σ → σ → Prop} {C : Coupling} {c₁ c₂ : Context}
  {P : ∀ {σ : Type}, (σ → σ → Prop) → Op σ Unit → Op σ Unit → Prop} (closing : C.Closing c₁ c₂ P)
include closing

-- An alert that is made, shown and recorded.
theorem Coupling.Closing.shown {made₁ made₂ : Except RenderError Alert} (hmade : made₁ = made₂)
    (made : FailsOnly (fun cause => C.failure (.render cause)) made₁) (address : Address) (o : Bool)
    {k₁ k₂ : List Int → Op σ Unit} (hk : ∀ handles, P O (k₁ handles) (k₂ handles)) :
    P O (Op.ofRender made₁ >>= fun a => Delivery.present address a o >>= k₁)
      (Op.ofRender made₂ >>= fun a => Delivery.present address a o >>= k₂) :=
  closing.after (.ofRender hmade made) fun a =>
    closing.after (Delivery.present_coupled closing.toLawful address a o) hk

-- An alert that is cancelled.
theorem Coupling.Closing.cancelled (address : Address) {k₁ k₂ : Unit → Op σ Unit}
    (hk : P O (k₁ ()) (k₂ ())) :
    P O (Delivery.cancel address >>= k₁) (Delivery.cancel address >>= k₂) :=
  closing.after (Delivery.cancel_coupled closing.toSteady address) fun _ => hk

theorem Coupling.Closing.logged (level : Level) (source : Source) (text : String)
    {k₁ k₂ : Unit → Op σ Unit} (hk : P O (k₁ ()) (k₂ ())) :
    P O (Op.log level source text >>= k₁) (Op.log level source text >>= k₂) :=
  closing.after (closing.log _ _ _) fun _ => hk

theorem Blocked.clearMedium_closing (m : Medium) :
    P Eq (Blocked.clearMedium c₁ m) (Blocked.clearMedium c₂ m) := by
  refine closing.after (.bind .own fun _ => .bind (.modifyOwn _) fun _ => .pure _) fun _ => ?_
  exact closing.logged _ _ _ (closing.cancelled _ (closing.record _))

theorem Blocked.record_closing {O : History → History → Prop} (tells : Bool) (m : Medium)
    (reads : ∀ h₁ h₂, O h₁ h₂ → h₁.events m = h₂.events m)
    (keeps : ∀ event h₁ h₂, O h₁ h₂ → O (h₁.push m event) (h₂.push m event))
    (number : Option String) (time : Calendar.Moment) (matched : MatchKind) :
    P O (Blocked.record c₁ tells m number time matched)
      (Blocked.record c₂ tells m number time matched) := by
  unfold Blocked.record
  split
  · exact closing.logged _ _ _ (closing.record _)
  · refine closing.after ?_ fun alert =>
      closing.after (Delivery.present_coupled closing.toLawful _ _ _) fun _ => closing.record _
    refine .reading fun h₁ h₂ related => ?_
    rw [reads h₁ h₂ related]
    refine .bind (.modifying (keeps _)) fun _ => .bind (.device closing.toLawful) fun d => ?_
    exact .ofRender (by rw [closing.wording]) (summary_fails closing.renders _ _ _ _)

theorem Voicemail.announce_closing {O : Visibility → Visibility → Prop} (line : Int)
    (sound : Bool) : P O (Voicemail.announce c₁ line sound) (Voicemail.announce c₂ line sound) := by
  refine closing.after (.resolving ?_) fun found => ?_
  · exact .bind (.phone closing.toLawful closing.covers _) fun _ =>
      .bind (.line closing.toLawful closing.covers _) fun _ => .pure _
  · obtain u | ⟨phone, info⟩ := found
    · exact closing.logged _ _ _ (closing.record _)
    · dsimp only
      split
      · exact closing.logged _ _ _ (closing.record _)
      · refine closing.after (.device closing.toLawful) fun d => ?_
        exact closing.shown (by rw [closing.wording])
          (voicemail_alert_fails closing.renders _ _ _ _ _) _ _ fun _ => closing.record _

theorem Voicemail.update_closing {O : Visibility → Visibility → Prop} (capable : Bool) (line : Int)
    (visible sound : Bool)
    (keeps : ∀ v₁ v₂, O v₁ v₂ → O (v₁.insert line visible) (v₂.insert line visible)) :
    P O (Voicemail.update c₁ capable line visible sound)
      (Voicemail.update c₂ capable line visible sound) := by
  unfold Voicemail.update
  split
  · exact closing.logged _ _ _ (closing.record _)
  · refine closing.logged _ _ _ (closing.after (.modifying keeps) fun _ => ?_)
    split
    · exact Voicemail.announce_closing closing line sound
    · exact closing.cancelled _ (closing.record _)

theorem Voicemail.refresh_closing (capable : Bool) (line : Int) :
    P Eq (Voicemail.refresh c₁ capable line) (Voicemail.refresh c₂ capable line) := by
  refine closing.after .own fun v => ?_
  dsimp only
  split
  · exact Voicemail.update_closing closing capable _ true false fun _ _ h => h ▸ rfl
  · exact closing.alike (closing.log _ _ _)

theorem Forwarding.update_closing {O : Visibility → Visibility → Prop} (line : Int) (visible : Bool)
    (keeps : ∀ v₁ v₂, O v₁ v₂ → O (v₁.insert line visible) (v₂.insert line visible)) :
    P O (Forwarding.update c₁ line visible) (Forwarding.update c₂ line visible) := by
  refine closing.logged _ _ _ (closing.after (.modifying keeps) fun _ => ?_)
  split
  · refine closing.after (.resolving (.line closing.toLawful closing.covers _)) fun found => ?_
    obtain u | info := found
    · exact closing.logged _ _ _ (closing.record _)
    · refine closing.after (.device closing.toLawful) fun d => ?_
      exact closing.shown (by rw [closing.wording])
        (forwarding_alert_fails closing.renders d info) _ _ fun _ => closing.record _
  · exact closing.cancelled _ (closing.record _)

theorem Operator.update_closing (service : Service) :
    P Eq (Operator.update c₁ service) (Operator.update c₂ service) := by
  refine closing.after (.device closing.toLawful) fun d => ?_
  split
  · dsimp only
    split
    · exact closing.alike (closing.log _ _ _)
    · refine closing.after
        (Operator.chosen_coupled closing.toLawful closing.covers.unwritable _) fun operator => ?_
      refine closing.logged _ _ _ (closing.after .own fun shown => ?_)
      split
      · split
        · exact closing.shown (by rw [closing.wording])
            (operator_alert_fails closing.renders operator) _ _
            fun _ => closing.after (.modifyOwn _) fun _ => closing.record _
        · exact closing.alike (.pure _)
      · split
        · exact closing.cancelled _ (closing.after (.modifyOwn _) fun _ => closing.record _)
        · exact closing.alike (.pure _)
  · exact closing.alike (.pure _)

end Requests

-- Only here is something done after a decision was recorded.
theorem Blocked.clear_coupled {C : Coupling} {c₁ c₂ : Context} (ties : C.Ties c₁ c₂)
    (given : Datum) : Op.Coupled C Eq (Blocked.clear c₁ given) (Blocked.clear c₂ given) :=
  .bind (.ofExcept fun cause _ => ties.covers.notAMember cause) fun _ =>
    .forM (Blocked.clearMedium_closing ties.closing) _

namespace Desk

def untraced (d : Desk) : Desk := { d with settings.tracing := {} }

/-- Desks that differ in what they record only. -/
def Alike (d₁ d₂ : Desk) : Prop := d₁.untraced = d₂.untraced

variable {C : Coupling} {d₁ d₂ : Desk} {e₁ e₂ : Session}

section Answers

variable {P : ∀ {σ : Type}, (σ → σ → Prop) → Op σ Unit → Op σ Unit → Prop}
  (closing : C.Closing d₁.context d₂.context P)
include closing

-- a part of the desk other than what it records
theorem part_closing {σ : Type} {part : Desk → σ} {setPart : σ → Desk → Desk} {op₁ op₂ : Op σ Unit}
    (parts : ∀ d, part d.untraced = part d)
    (wholes : ∀ s d, (setPart s d).untraced = setPart s d.untraced) (h : P Eq op₁ op₂) :
    P Alike (Op.within part setPart op₁) (Op.within part setPart op₂) := by
  refine closing.within (fun d₁ d₂ alike => ?_) (fun s s' d₁ d₂ hs alike => ?_) h
  · have same : d₁.untraced = d₂.untraced := alike
    rw [← parts d₁, same, parts d₂]
  · have same : d₁.untraced = d₂.untraced := alike
    show (setPart s d₁).untraced = (setPart s' d₂).untraced
    rw [← hs, wholes s d₁, same, wholes s d₂]

theorem onHistory_closing {op₁ op₂ : Op History Unit} (h : P Eq op₁ op₂) :
    P Alike (onHistory op₁) (onHistory op₂) :=
  part_closing closing (fun _ => rfl) (fun _ _ => rfl) h

theorem onVoicemail_closing {op₁ op₂ : Op Visibility Unit} (h : P Eq op₁ op₂) :
    P Alike (onVoicemail op₁) (onVoicemail op₂) :=
  part_closing closing (fun _ => rfl) (fun _ _ => rfl) h

theorem onForwarding_closing {op₁ op₂ : Op Visibility Unit} (h : P Eq op₁ op₂) :
    P Alike (onForwarding op₁) (onForwarding op₂) :=
  part_closing closing (fun _ => rfl) (fun _ _ => rfl) h

theorem onOperator_closing {op₁ op₂ : Op Bool Unit} (h : P Eq op₁ op₂) :
    P Alike (onOperator op₁) (onOperator op₂) :=
  part_closing closing (fun _ => rfl) (fun _ _ => rfl) h

omit closing in
-- A call that is made only where the host can show short-lived messages.
theorem whereShown_coupled (lawful : C.Lawful) {m : Method} (hm : m ≠ .record) (c : ShellCall) :
    Op.Coupled C Alike
      (Op.device >>= fun dev => if dev.showsTransients then Op.call m >>= fun _ => Op.note c
        else pure () : Op Desk Unit)
      (Op.device >>= fun dev => if dev.showsTransients then Op.call m >>= fun _ => Op.note c
        else pure ()) := by
  refine .bind (.device lawful) fun dev => ?_
  split
  · exact .bind (lawful.call hm) fun _ => lawful.note c
  · exact .pure _

theorem answer_closing (alike : d₁.Alike d₂) (request : Request)
    (clears : ∀ given, request = .clearBlocked given →
      P Eq (Blocked.clear d₁.context given) (Blocked.clear d₂.context given)) :
    P Alike (d₁.answer request) (d₂.answer request) := by
  -- the desk is read once, and in what it is read for the two desks agree
  have same : d₁.untraced = d₂.untraced := alike
  have hcapable : d₁.voiceCapable = d₂.voiceCapable := congrArg (·.voiceCapable) same
  have htells : d₁.settings.tellsBlocked = d₂.settings.tellsBlocked :=
    congrArg (·.settings.tellsBlocked) same
  cases request with
  | blocked m number time matched =>
    rw [answer, answer, htells]
    exact onHistory_closing closing (Blocked.record_closing closing _ m (fun _ _ h => by rw [h])
      (fun _ _ _ h => by rw [h]) number time matched)
  | clearBlocked given => exact onHistory_closing closing (clears given rfl)
  | updateVoicemail line visible sound =>
    rw [answer, answer, hcapable]
    exact onVoicemail_closing closing
      (Voicemail.update_closing closing _ line visible sound fun _ _ h => h ▸ rfl)
  | refreshVoicemail line =>
    rw [answer, answer, hcapable]
    exact onVoicemail_closing closing (Voicemail.refresh_closing closing _ line)
  | updateForwarding line visible =>
    exact onForwarding_closing closing
      (Forwarding.update_closing closing line visible fun _ _ h => h ▸ rfl)
  | updateService service =>
    exact onOperator_closing closing (Operator.update_closing closing service)
  | showRoaming =>
    exact closing.shown (by rw [closing.wording]) (roaming_alert_fails closing.renders) _ _
      fun _ => closing.record _
  | hideRoaming => exact closing.cancelled _ (closing.record _)
  | transient text =>
    exact closing.alike (.bind (whereShown_coupled closing.toLawful (by decide) _) fun _ =>
      whereShown_coupled closing.toLawful (by decide) _)

end Answers

/-- Requests to desks that differ in what they record end alike. -/
theorem perform_coupled (ties : C.Ties d₁.context d₂.context) (alike : d₁.Alike d₂)
    (he : C.session e₁ e₂) (request : Request) :
    Op.Meet C Alike (perform request (d₁, e₁)) (perform request (d₂, e₂)) :=
  answer_closing ties.closing alike request (fun given _ => Blocked.clear_coupled ties given)
    d₁ d₂ e₁ e₂ alike he

end Desk

end TelephonyAlerts
