import TelephonyAlerts.Proofs.Coupling
import TelephonyAlerts.Proofs.Run

/-!
# How requests fail

A request fails because a method of the host fails, because of what it is asked, or because a phrase
has no text.  Where every phrase has a text for the arguments that it is rendered with, no request
fails for the last reason; and where phrases have none for some reasons only, requests fail for
these alone.
-/

namespace TelephonyAlerts

open TelephonyAlerts.Data TelephonyAlerts.Template

/-! ## 1. Failures of a kind -/

/-- All failures that methods of the host have in store are of a kind. -/
def Session.Holds (e : Session) (S : Failure → Prop) : Prop := ∀ m f, e.Fails m f → S f

variable {S : Failure → Prop}

theorem Session.Holds.after {e e' : Session} {calls : List ShellCall} (h : e.Holds S)
    (he : e.After calls e') : e'.Holds S :=
  fun m f hf => h m f (he.fails hf)

/-! ## 2. A run beside itself -/

/-- A session belongs with itself, as long as its failures are of a kind. -/
def Coupling.single (S : Failure → Prop) : Coupling := ⟨fun e₁ e₂ => e₁ = e₂ ∧ e₁.Holds S, S⟩

namespace Op

variable {σ α : Type} {O : σ → σ → Prop}

theorem Coupled.single {op : Op σ α} {act : Session → Except Failure α × Session}
    (hop : ∀ s e, op (s, e) = ((act e).1, s, (act e).2))
    (fails : ∀ e f, e.Holds S → (act e).1 = .error f → S f)
    (holds : ∀ e, e.Holds S → (act e).2.Holds S) : Coupled (.single S) O op op := by
  intro s₁ s₂ e₁ e₂ hs he
  obtain ⟨rfl, he⟩ := he
  rw [hop, hop]
  exact ⟨rfl, hs, ⟨rfl, holds e₁ he⟩, fun f hf => fails e₁ f he hf⟩

theorem Coupled.single_ok {op : Op σ α} {a : α} {g : Session → Session}
    (hop : ∀ s e, op (s, e) = (.ok a, s, g e)) (holds : ∀ e, e.Holds S → (g e).Holds S) :
    Coupled (.single S) O op op := by
  let act (e : Session) : Except Failure α × Session := (.ok a, g e)
  have hact : ∀ s e, op (s, e) = ((act e).1, s, (act e).2) := hop
  exact .single hact (fun _ _ _ hf => by cases hf) holds

end Op

theorem Coupling.single_lawful : (Coupling.single S).Lawful where
  device h := congrArg Session.device h.1
  log _ _ _ := .single_ok (fun _ _ => rfl) fun _ he => he
  note _ := .single_ok (fun _ _ => rfl) fun _ he => he
  call _ := .single (fun s e => Op.call_apply _ (s, e))
    (fun _ f he hf => he _ f (Session.fails_of_call hf)) fun e he => he.after (e.call_after _)

theorem Coupling.single_ties (covers : Covers S) {c : Context}
    (renders : c.wording.FailsOnly fun cause => S (.render cause)) :
    (Coupling.single S).Ties c c where
  toLawful := single_lawful
  record d := by
    refine .single (fun s e => Op.record_apply _ _ (s, e)) (fun e f he hf => ?_)
      fun e he => he.after (e.record_after _ _)
    rcases Session.fails_of_record hf with ⟨u, rfl⟩ | h
    · exact covers.sampling u
    · exact he _ f h
  covers := covers
  wording := rfl
  renders := renders

/-! ## 3. Runs -/

namespace Desk

variable {d d' : Desk} {e : Session} {steps : List Step}

def Step.Prepares (S : Failure → Prop) : Step → Prop
  | .host (.fault _ f) => S f.failure
  | _ => True

theorem report_failsIn (covers : Covers S)
    (renders : d.wording.FailsOnly fun cause => S (.render cause)) (he : e.Holds S) {s : Step}
    (hs : s.Prepares S) :
    (∀ f, (s.op.report (d, e)).1.result = .error f → S f) ∧
      (s.op.report (d, e)).2.1.wording = d.wording ∧ (s.op.report (d, e)).2.2.Holds S := by
  cases s with
  | request request =>
    have blank : (Coupling.single S).session e.blank e.blank := ⟨rfl, he⟩
    have hmeet := perform_coupled (Coupling.single_ties covers renders) (Eq.refl d.untraced) blank
      request
    exact ⟨hmeet.fails, wording_of_does (report_does request (d, e)), hmeet.session.2⟩
  | settings c => exact ⟨fun _ hf => (by cases hf), rfl, he⟩
  | host c =>
    refine ⟨fun _ hf => (by cases hf), rfl, fun m f hf => ?_⟩
    obtain ⟨fault, hfault, rfl⟩ := hf
    cases c with
    | device c => exact he m _ ⟨fault, hfault, rfl⟩
    | noFaults => cases hfault
    | fault m' f' =>
      change (if m = m' then some f' else e.faults m) = some fault at hfault
      split at hfault
      · obtain rfl := Option.some.inj hfault
        exact hs
      · exact he m _ ⟨fault, hfault, rfl⟩

-- Every failure of a run is one that the host had in store, or of a kind that is covered.
theorem run_failsIn (covers : Covers S)
    (renders : d.wording.FailsOnly fun cause => S (.render cause)) (he : e.Holds S)
    (hsteps : ∀ s ∈ steps, s.Prepares S) :
    ∀ report ∈ (run steps (d, e)).1, ∀ f, report.result = .error f → S f := by
  induction steps generalizing d e with
  | nil => exact fun report hreport => absurd hreport List.not_mem_nil
  | cons s rest ih =>
    obtain ⟨hfails, hwording, hholds⟩ :=
      report_failsIn covers renders he (hsteps s List.mem_cons_self)
    intro report hreport
    rcases List.mem_cons.1 hreport with rfl | hreport
    · exact hfails
    · exact ih (hwording ▸ renders) hholds (fun s hs => hsteps s (List.mem_cons_of_mem _ hs))
        report hreport

end Desk

/-! ## 4. Accepted wordings -/

/-- A failure that no template causes. -/
def Failure.IsForeign (f : Failure) : Prop := ∀ cause, f ≠ .render cause

/-- Failures that a template causes are for some reasons only. -/
def Failure.RendersOnly (S : RenderError → Prop) (f : Failure) : Prop :=
  ∀ cause, f = .render cause → S cause

variable {S : RenderError → Prop}

theorem Failure.IsForeign.rendersOnly {f : Failure} (foreign : f.IsForeign) : f.RendersOnly S :=
  fun cause h => absurd h (foreign cause)

theorem covers_rendersOnly : Covers (Failure.RendersOnly S) where
  unresolved _ _ h := by cases h
  unwritable _ _ h := by cases h
  notAMember _ _ h := by cases h
  sampling _ _ h := by cases h

theorem Desk.Step.Prepares.rendersOnly {s : Step} (foreign : s.Prepares Failure.IsForeign) :
    s.Prepares (Failure.RendersOnly S) := by
  cases s with
  | host c =>
    cases c with
    | fault m f =>
      have hf : f.failure.IsForeign := foreign
      exact hf.rendersOnly
    | _ => trivial
  | _ => trivial

/-- A phrase of an accepted wording has a text for its arguments exactly where each field of its
template fits, as long as no field goes on behind a method.  A template of bare fields, which are
names with at most a conversion, has a text unless it shows a number that is too long.  Where all
fields fit the arguments that alerts are made with, or fail for some reasons only, requests fail
because of a template for these reasons alone. -/
theorem accepted_text_iff {replacements : Assoc String String} {w : Wording}
    (accepted : Wording.ofReplacements replacements = .ok w) :
    (∀ p args, p.Named args → (∀ name, w.text p args ≠ .error (.unseen name)) →
      ((∃ t, w.text p args = .ok t) ↔
        ∀ f ∈ fields (w.template p).toList, ∀ a, args.find f.root = some a → f.Fits args a)) ∧
    (∀ p args, p.Named args → (∀ f ∈ fields (w.template p).toList, f.Bare) →
      (∃ t, w.text p args = .ok t) ∨
        w.text p args = .error .tooLong ∧ ∃ x ∈ args, x.2.isWritable = false) ∧
    ∀ S : RenderError → Prop,
      (∀ p args, p.Supplied args →
        (∀ f ∈ fields (w.template p).toList, ∀ a, args.find f.root = some a → f.Fits args a) ∨
          FailsOnly S (w.text p args)) →
      ∀ (d : Desk) (e : Session) (steps : List Desk.Step), d.wording = w →
        e.Holds Failure.IsForeign → (∀ s ∈ steps, s.Prepares Failure.IsForeign) →
        ∀ report ∈ (Desk.run steps (d, e)).1, ∀ cause, report.result = .error (.render cause) →
          S cause := by
  have htext (p : Phrase) (args : Arguments) (named : p.Named args) :=
    text_ok (accepts_of_ofReplacements accepted p) named
  refine ⟨fun p args named _ => htext p args named,
    fun p args named => text_bare (accepts_of_ofReplacements accepted p) named,
    fun S hS d e steps hd he hsteps report hreport cause hresult => ?_⟩
  have renders : d.wording.FailsOnly fun cause => Failure.RendersOnly S (.render cause) := by
    intro p args supplied cause hcause cause' hcause'
    obtain rfl := Failure.render.inj hcause'
    rw [hd] at hcause
    rcases hS p args supplied with fits | fails
    · have named : p.Named args := fun name => by rw [supplied.1]
      obtain ⟨t, ht⟩ := (htext p args named).2 fits
      rw [ht] at hcause
      cases hcause
    · exact fails cause hcause
  exact Desk.run_failsIn covers_rendersOnly renders (fun m f hf => (he m f hf).rendersOnly)
    (fun s hs => (hsteps s hs).rendersOnly) report hreport _ hresult cause rfl

theorem standard_bare (p : Phrase) : ∀ f ∈ fields p.standard.toList, f.Bare := by
  have hall : ∀ p ∈ Phrase.all, ∀ f ∈ fields p.standard.toList, f.Bare := by decide +kernel
  exact hall p p.mem_all

/-- The number of a caller is a text and cannot be set in decimal. -/
theorem accepted_text_iff_decimal :
    let template := "Call from \x7bnumber:d\x7d blocked"
    let w : Wording := ⟨[(.blacklistCall, template)]⟩
    let args : Arguments := [("number", .text "5551234".toList)]
    let forwarded : List Desk.Step := [.request (.updateForwarding 5 true)]
    Wording.ofReplacements [("blacklist_call", template)] = .ok w ∧
      (¬ ∃ t, w.text .blacklistCall args = .ok t) ∧
      (¬ ∀ f ∈ fields (w.template .blacklistCall).toList, ∀ a, args.find f.root = some a →
        f.Fits args a) ∧
      (∃ t, w.text .blacklistMessage args = .ok t) ∧
      ∀ report ∈ (Desk.run forwarded (Desk.fresh, { device := Desk.twoUsers })).1,
        ∀ cause, report.result = .error (.render cause) → cause = .tooLong := by
  intro template w args forwarded
  have accepted : Wording.ofReplacements [("blacklist_call", template)] = .ok w :=
    toOption_eq_some.1 (by decide +kernel)
  have named : ∀ p ∈ [Phrase.blacklistCall, .blacklistMessage], p.Named args := by
    intro p hp name
    have harguments :
        ∀ p ∈ [Phrase.blacklistCall, .blacklistMessage], p.arguments = ["number"] := by
      decide +kernel
    rw [harguments p hp]
    rfl
  obtain ⟨htext, hbare, -⟩ := accepted_text_iff accepted
  have hcause : (match w.text .blacklistCall args with
      | .error (.layout _) => true
      | _ => false) = true := by
    decide +kernel
  have hfails : ¬ ∃ t, w.text .blacklistCall args = .ok t := by
    intro h
    obtain ⟨t, h⟩ := h
    rw [h] at hcause
    cases hcause
  refine ⟨accepted, hfails, fun fits => ?_, ?_, ?_⟩
  · refine hfails ((htext _ args (named _ (by simp)) fun name hname => ?_).2 fits)
    rw [hname] at hcause
    cases hcause
  · have bare : ∀ f ∈ fields (w.template .blacklistMessage).toList, f.Bare :=
      standard_bare .blacklistMessage
    refine (hbare _ args (named _ (by simp)) bare).resolve_right ?_
    intro h
    obtain ⟨-, x, hx, hwritable⟩ := h
    obtain rfl := List.mem_singleton.1 hx
    cases hwritable
  · have standard : Wording.ofReplacements [] = .ok {} := toOption_eq_some.1 (by decide +kernel)
    obtain ⟨-, hbare, hfails⟩ := accepted_text_iff standard
    have tooLong (p : Phrase) (args : Arguments) (supplied : p.Supplied args) :
        FailsOnly (· = .tooLong) (Wording.text {} p args) := by
      intro cause hcause
      have named : p.Named args := fun name => by rw [supplied.1]
      rcases hbare p args named (standard_bare p) with ⟨t, ht⟩ | ⟨hlong, -⟩
      · rw [ht] at hcause
        cases hcause
      · exact (Except.error.inj (hlong.symm.trans hcause)).symm
    refine hfails _ (fun p args supplied => Or.inr (tooLong p args supplied)) Desk.fresh _ forwarded
      rfl (fun m f hf => ?_) (fun s hs => ?_)
    · obtain ⟨fault, hfault, -⟩ := hf
      cases hfault
    · obtain rfl := List.mem_singleton.1 hs
      trivial

end TelephonyAlerts
