import TelephonyAlerts.Proofs.Run

/-!
# What indicators remember

The indicators of a kind remember the last update of every line that was updated, however the
update ended.  A device that cannot place calls remembers nothing of voicemail.
-/

namespace TelephonyAlerts

open TelephonyAlerts.Data

/-! ## 1. Last updates -/

namespace Data.Assoc

variable {κ ν : Type} [DecidableEq κ]

theorem ofPairs_snoc (pairs : List (κ × ν)) (k : κ) (v : ν) :
    ofPairs (pairs ++ [(k, v)]) = (ofPairs pairs).insert k v := by
  unfold ofPairs
  rw [List.foldl_append]
  rfl

theorem mem_keys_ofPairs {pairs : List (κ × ν)} {k : κ} :
    k ∈ keys (ofPairs pairs) ↔ ∃ v, (k, v) ∈ pairs := by
  induction pairs using List.reverseRecOn with
  | nil => exact iff_of_false List.not_mem_nil fun ⟨_, h⟩ => List.not_mem_nil h
  | append_singleton pairs p ih =>
    obtain ⟨k', v'⟩ := p
    have hkeys : k ∈ keys (ofPairs (pairs ++ [(k', v')])) ↔ k ∈ keys (ofPairs pairs) ∨ k = k' := by
      rw [ofPairs_snoc, keys_insert]
      split
      · rename_i hold
        refine ⟨Or.inl, fun h => h.elim id ?_⟩
        rintro rfl
        exact hold
      · rw [List.mem_append, List.mem_singleton]
    rw [hkeys, ih]
    simp only [List.mem_append, List.mem_singleton, Prod.mk.injEq, exists_or, exists_and_left,
      exists_eq, and_true]

-- A value that stands under a key already changes nothing.
theorem insert_of_get? {m : Assoc κ ν} {k : κ} {v : ν} (h : m.get? k = some v) :
    m.insert k v = m := by
  induction m with
  | nil => cases h
  | cons entry rest ih =>
    obtain ⟨k', v'⟩ := entry
    unfold get? at h
    unfold insert
    by_cases hk : k' = k
    · rw [if_pos hk] at h ⊢
      rw [Option.some.inj h]
    · rw [if_neg hk] at h ⊢
      rw [ih h]

end Data.Assoc

namespace Visibility

/-- What was last asked for a line. -/
def latest (updates : List (Int × Bool)) (line : Int) : Option Bool :=
  (updates.reverse.find? (·.1 = line)).map (·.2)

theorem latest_snoc (updates : List (Int × Bool)) (u : Int × Bool) (line : Int) :
    latest (updates ++ [u]) line = if u.1 = line then some u.2 else latest updates line := by
  unfold latest
  rw [List.reverse_append, List.reverse_singleton, List.singleton_append, List.find?_cons]
  by_cases h : u.1 = line <;> simp [h]

theorem get?_ofPairs (updates : List (Int × Bool)) (line : Int) :
    (Assoc.ofPairs updates).get? line = latest updates line := by
  induction updates using List.reverseRecOn with
  | nil => rfl
  | append_singleton updates u ih =>
    rw [latest_snoc, ← ih, Assoc.ofPairs_snoc, Assoc.get?_insert]

/-- The lines that were updated are remembered, each as it was last asked for. -/
structure Follows (v : Visibility) (updates : List (Int × Bool)) : Prop where
  shows : ∀ line, v.shows line = (latest updates line).getD false
  keys : ∀ line, line ∈ v.keys ↔ ∃ visible, (line, visible) ∈ updates

theorem follows_ofPairs (updates : List (Int × Bool)) :
    Follows (Assoc.ofPairs updates) updates where
  shows line := by
    unfold Visibility.shows
    rw [get?_ofPairs]
  keys _ := Assoc.mem_keys_ofPairs

def follow (v : Visibility) : Option (Int × Bool) → Visibility
  | some (line, visible) => v.insert line visible
  | none => v

-- The sight of a line that is seen is no news.
theorem insert_of_shows {v : Visibility} {line : Int} (h : v.shows line = true) :
    v.insert line true = v := by
  unfold Visibility.shows at h
  cases hget : v.get? line with
  | none =>
    rw [hget] at h
    cases h
  | some visible =>
    rw [hget] at h
    obtain rfl : visible = true := h
    exact Assoc.insert_of_get? hget

end Visibility

/-! ## 2. Runs -/

namespace Desk

/-- The update of a voicemail indicator that a step asks for. -/
def Step.voicemail? : Step → Option (Int × Bool)
  | .request (.updateVoicemail line visible _) => some (line, visible)
  | _ => none

/-- The update of a forwarding indicator that a step asks for. -/
def Step.forwarding? : Step → Option (Int × Bool)
  | .request (.updateForwarding line visible) => some (line, visible)
  | _ => none

variable {d d' : Desk} {e e' : Session} {request : Request} {r : Except Failure Unit}
  {calls : List ShellCall} {s : Step} {report : Report Unit} {steps : List Step}

theorem nothing_of_ofSettings {s : Settings} (made : ofSettings s = .ok d) :
    d.voicemail = [] ∧ d.forwarding = [] := by
  obtain ⟨wording, -, rfl⟩ := eq_of_ofSettings made
  exact ⟨rfl, rfl⟩

theorem forwarding_of_does (does : Does e d request r calls d') :
    d'.forwarding = Visibility.follow d.forwarding (Step.forwarding? (.request request)) := by
  cases does with
  | refreshed _ again => cases again <;> rfl
  | _ => rfl

-- A refresh updates a line that is seen to be seen.
theorem voicemail_of_does (capable : d.voiceCapable = true) (does : Does e d request r calls d') :
    d'.voicemail = Visibility.follow d.voicemail (Step.voicemail? (.request request)) := by
  cases does with
  | incapable incapable => exact absurd (capable.symm.trans incapable) nofun
  | refreshed shown again =>
    cases again with
    | incapable incapable => rfl
    | voicemailShown _ _ => exact Visibility.insert_of_shows shown
  | _ => rfl

theorem voicemail_of_incapable (incapable : d.voiceCapable = false)
    (does : Does e d request r calls d') : d'.voicemail = d.voicemail := by
  cases does with
  | voicemailShown capable _ => exact absurd (capable.symm.trans incapable) nofun
  | voicemailHidden capable _ => exact absurd (capable.symm.trans incapable) nofun
  | refreshed _ again =>
    cases again with
    | incapable _ => rfl
    | voicemailShown capable _ => exact absurd (capable.symm.trans incapable) nofun
  | _ => rfl

theorem forwarding_of_takes (takes : Takes d e s report d' e') :
    d'.forwarding = Visibility.follow d.forwarding s.forwarding? := by
  cases takes with
  | request _ does => exact forwarding_of_does does
  | settings c => rfl
  | host c => rfl

theorem voicemail_of_takes (capable : d.voiceCapable = true) (takes : Takes d e s report d' e') :
    d'.voicemail = Visibility.follow d.voicemail s.voicemail? := by
  cases takes with
  | request _ does => exact voicemail_of_does capable does
  | settings c => rfl
  | host c => rfl

theorem voiceCapable_of_takes (takes : Takes d e s report d' e') :
    d'.voiceCapable = d.voiceCapable := by
  cases takes with
  | request _ does => exact voiceCapable_of_does does
  | settings c => rfl
  | host c => rfl

theorem run_voiceCapable (steps : List Step) (d : Desk) (e : Session) :
    (run steps (d, e)).2.1.voiceCapable = d.voiceCapable :=
  run_induction (I := fun _ d' _ => d'.voiceCapable = d.voiceCapable) rfl
    fun _ _ _ _ _ _ _ _ h takes => (voiceCapable_of_takes takes).trans h

theorem follow_ofPairs (update? : Step → Option (Int × Bool)) (steps : List Step) (s : Step) :
    Visibility.follow (Assoc.ofPairs (steps.filterMap update?)) (update? s) =
      Assoc.ofPairs ((steps ++ [s]).filterMap update?) := by
  rw [List.filterMap_append]
  cases h : update? s with
  | none => rw [List.filterMap_cons_none h, List.filterMap_nil, List.append_nil]; rfl
  | some u => rw [List.filterMap_cons_some h, List.filterMap_nil, Assoc.ofPairs_snoc]; rfl

theorem forwarding_of_run (hnew : d.forwarding = []) :
    (run steps (d, e)).2.1.forwarding = Assoc.ofPairs (steps.filterMap Step.forwarding?) := by
  induction steps using List.reverseRecOn with
  | nil => exact hnew
  | append_singleton steps s ih =>
    rw [run_snoc, ← follow_ofPairs, ← ih]
    exact forwarding_of_takes (takes _ _ s)

theorem voicemail_of_run (hnew : d.voicemail = []) (capable : d.voiceCapable = true) :
    (run steps (d, e)).2.1.voicemail = Assoc.ofPairs (steps.filterMap Step.voicemail?) := by
  induction steps using List.reverseRecOn with
  | nil => exact hnew
  | append_singleton steps s ih =>
    rw [run_snoc, ← follow_ofPairs, ← ih]
    exact voicemail_of_takes ((run_voiceCapable steps d e).trans capable) (takes _ _ s)

theorem voicemail_of_incapable_run (hnew : d.voicemail = []) (incapable : d.voiceCapable = false) :
    (run steps (d, e)).2.1.voicemail = [] := by
  refine (run_induction (I := fun _ d' _ => d'.voicemail = [] ∧ d'.voiceCapable = false)
    ⟨hnew, incapable⟩ ?_).1
  intro reports d e s report d' e' _ h takes
  refine ⟨?_, (voiceCapable_of_takes takes).trans h.2⟩
  cases takes with
  | request _ does => exact (voicemail_of_incapable h.2 does).trans h.1
  | settings c => exact h.1
  | host c => exact h.1

end Desk

end TelephonyAlerts
