import TelephonyAlerts.Host.Delivery
import TelephonyAlerts.Proofs.Operation

/-!
# What delivery calls

A showing calls the host once for every profile that the audience admits, in the order of the
list.  Where a call fails, the calls before it stay made, so a showing that fails has made a first
part of its calls and never all of them.
-/

namespace TelephonyAlerts

namespace Op

variable {σ : Type} {s : σ} {e : Session}

-- A call that is noted once it was made.
theorem ends_noted (m : Method) (c : ShellCall) :
    (call m >>= fun _ => note c : Op σ Unit).Ends s e fun r s' e' => s' = s ∧
      match r with
      | .ok _ => e.After [c] e'
      | .error f => e.Fails m f ∧ e.After [] e' := by
  have hafter := e.call_after m
  unfold Ends
  rw [bind_apply, call_apply]
  cases hr : (e.call m).1 with
  | error f => exact ⟨rfl, Session.fails_of_call hr, hafter⟩
  | ok _ =>
    refine ⟨rfl, hafter.device, hafter.fails, ?_⟩
    show (e.call m).2.journal.calls ++ [c] = e.journal.calls ++ [c]
    rw [hafter.calls, List.append_nil]

end Op

namespace Delivery

variable {σ : Type} {s : σ} {e : Session}

/-- The calls that show an alert to the profiles of a list. -/
def told (address : Address) (alert : Alert) (ownerOnlyAction : Bool) (ps : List Profile) :
    List ShellCall :=
  (ps.filter address.topic.audience.admits).map fun p =>
    .present address (personal alert ownerOnlyAction p) p.handle

def toldOn (d : Device) (address : Address) (alert : Alert) (ownerOnlyAction : Bool) :
    List ShellCall :=
  told address { alert with address } ownerOnlyAction d.profiles

/-- The users of a device that an alert at an address is for. -/
def users (d : Device) (address : Address) : List Int :=
  (d.profiles.filter address.topic.audience.admits).map (·.handle)

theorem mem_told {address : Address} {alert : Alert} {o : Bool} {ps : List Profile} {c : ShellCall}
    (h : c ∈ told address alert o ps) : ∃ p ∈ ps, address.topic.audience.admits p ∧
      c = .present address (personal alert o p) p.handle := by
  obtain ⟨p, hp, rfl⟩ := List.mem_map.1 h
  exact ⟨p, (List.mem_filter.1 hp).1, (List.mem_filter.1 hp).2, rfl⟩

theorem presentTo_ends (address : Address) (alert : Alert) (o : Bool) (ps : List Profile) :
    (presentTo address alert o ps : Op σ (List Int)).Ends s e fun r s' e' => s' = s ∧
      ∃ calls, e.After calls e' ∧ match r with
        | .ok handles => calls = told address alert o ps ∧
            handles = (ps.filter address.topic.audience.admits).map (·.handle)
        | .error _ => calls <+: told address alert o ps ∧ calls ≠ told address alert o ps := by
  induction ps generalizing e with
  | nil => exact ⟨rfl, [], .refl e, rfl, rfl⟩
  | cons p rest ih =>
    unfold presentTo
    by_cases hp : address.topic.audience.admits p
    · rw [if_pos hp]
      have htold : told address alert o (p :: rest) =
          .present address (personal alert o p) p.handle :: told address alert o rest := by
        simp [told, hp]
      refine Op.Ends.bind (Op.ends_noted .present _) ?_ ?_
      · intro _ s' e' h
        obtain ⟨rfl, hcall⟩ := h
        refine Op.Ends.bind ih ?_ ?_
        · intro handles s'' e'' h
          obtain ⟨rfl, calls, hafter, rfl, rfl⟩ := h
          refine ⟨rfl, _, hcall.trans hafter, htold.symm, ?_⟩
          simp [hp]
        · intro f s'' e'' h
          obtain ⟨rfl, calls, hafter, hprefix, hne⟩ := h
          refine ⟨rfl, _, hcall.trans hafter, ?_, ?_⟩
          · rw [htold]
            exact List.cons_prefix_cons.2 ⟨rfl, hprefix⟩
          · rw [htold]
            simpa using hne
      · -- the call that fails is not noted, so one that was to be made is missing
        intro f s' e' h
        obtain ⟨rfl, -, hafter⟩ := h
        refine ⟨rfl, [], hafter, List.nil_prefix, ?_⟩
        rw [htold]
        simp
    · rw [if_neg hp]
      have htold : told address alert o (p :: rest) = told address alert o rest := by
        simp [told, hp]
      refine Op.ends_log fun e' he => ?_
      refine (ih (e := e')).mono ?_
      intro r s'' e'' h
      obtain ⟨rfl, calls, hafter, h⟩ := h
      refine ⟨rfl, calls, he.then hafter, ?_⟩
      rw [htold, List.filter_cons_of_neg hp]
      exact h

/-- A showing that fails has made some of its calls, never all of them unless there were none to
make. -/
theorem present_ends (address : Address) (alert : Alert) (o : Bool) :
    (present address alert o : Op σ (List Int)).Ends s e fun r s' e' => s' = s ∧
      ∃ calls, e.After calls e' ∧ match r with
        | .ok handles => calls = toldOn e.device address alert o ∧ handles = users e.device address
        | .error _ => calls <+: toldOn e.device address alert o ∧
            (calls = toldOn e.device address alert o → calls = []) := by
  refine Op.Ends.bind (Op.profiles_ends s e) ?_ ?_
  · intro ps s' e' h
    obtain ⟨rfl, he, hps⟩ := h
    obtain rfl := hps ps rfl
    refine (presentTo_ends _ _ _ _).mono ?_
    intro r s'' e'' h
    obtain ⟨rfl, calls, hafter, h⟩ := h
    cases r with
    | error f => exact ⟨rfl, calls, he.then hafter, h.1, fun hall => absurd hall h.2⟩
    | ok handles => exact ⟨rfl, calls, he.then hafter, h⟩
  · intro f s' e' h
    obtain ⟨rfl, he, -⟩ := h
    exact ⟨rfl, [], he, List.nil_prefix, fun _ => rfl⟩

theorem cancel_ends (address : Address) :
    (cancel address : Op σ Unit).Ends s e fun r s' e' => s' = s ∧
      match r with
      | .ok _ => e.After [.cancel address allUsers] e'
      | .error f => e.Fails .cancel f ∧ e.After [] e' :=
  Op.ends_noted .cancel _

end Delivery

end TelephonyAlerts
