import TelephonyAlerts.Proofs.Failures

/-!
# Sound sessions

In a sound session no method of the host fails, and none will until a failure is prepared.  A
request can still fail there, because an alert cannot be rendered or a decision not be sampled.
-/

namespace TelephonyAlerts

namespace Session

variable {e e' : Session} {calls : List ShellCall}

/-- No method of the host fails. -/
def Sound (e : Session) : Prop := ∀ m, e.faults m = none

theorem Sound.after (sound : e.Sound) (he : e.After calls e') : e'.Sound :=
  fun m => he.faultless (sound m)

theorem Sound.holds (sound : e.Sound) (S : Failure → Prop) : e.Holds S := by
  intro m f hf
  obtain ⟨fault, hfault, -⟩ := hf
  rw [sound m] at hfault
  cases hfault

end Session

namespace Op

variable {σ α β : Type} {s : σ} {e : Session} {op : Op σ α} {k : α → Op σ β}
  {R : Except Failure α → σ → Session → Prop} {Q : Except Failure β → σ → Session → Prop}

-- In a sound session an operation goes on to what follows, unless it fails by itself.
theorem Ends.bind_sound {S : Failure → Prop} (h : op.Ends s e R)
    (alone : Coupled (.single S) Eq op op) (sound : e.Sound)
    (answered : ∀ a s' e', R (.ok a) s' e' → (k a).Ends s' e' Q)
    (failed : ∀ f s' e', S f → Q (.error f) s' e') : (op >>= k).Ends s e Q := by
  have hmeet := alone s s e e rfl ⟨rfl, sound.holds S⟩
  have hop : op.Ends s e fun r s' e' => R r s' e' ∧ ∀ f, r = .error f → S f := ⟨h, hmeet.fails⟩
  exact hop.bind (fun a s' e' h => answered a s' e' h.1) fun f s' e' h => failed f s' e' (h.2 f rfl)

end Op

namespace Desk

variable {d d' : Desk} {e e' : Session} {s : Step} {steps : List Step} {report : Report Unit}

theorem sound_of_takes (sound : e.Sound) (hs : ∀ m f, s ≠ .host (.fault m f))
    (takes : Takes d e s report d' e') : e'.Sound := by
  cases takes with
  | request after _ => exact Session.Sound.after (e := e.blank) sound after
  | settings c => exact sound
  | host c =>
    exact fun m => Session.faultless_apply (e := e.blank) (sound m) fun f hc =>
      hs m f (congrArg Step.host hc)

theorem run_sound (sound : e.Sound) (hsteps : ∀ m f, .host (.fault m f) ∉ steps) :
    (run steps (d, e)).2.2.Sound :=
  run_induction (I := fun _ _ e => e.Sound) sound fun _ _ _ _ _ _ _ hs he takes =>
    sound_of_takes he (fun m f h => hsteps m f (h ▸ hs)) takes

end Desk

end TelephonyAlerts
