import Mathlib.Data.Int.Bitwise
import TelephonyAlerts.Proofs.Refusal
import TelephonyAlerts.Proofs.Sampling

/-!
# Selections as integers

An integer selects what is cleared by its two lowest bits in two's complement, whatever its other
bits and its sign.  Clearing one selection after another clears all that either selects, in whatever
order they come.  An integer that is no selection, which has more digits than can be written, is
refused before anything is cleared.
-/

namespace TelephonyAlerts

open TelephonyAlerts.Data TelephonyAlerts.Number

/-! ## 1. The bits of a selection -/

namespace Mask

variable {n : Int} {mask : Mask}

/-- How many media an integer selects. -/
def count (n : Int) : Nat := (n.testBit 0).toNat + (n.testBit 1).toNat

end Mask

namespace History

/-- What is left of a history where bit 0 takes the calls and bit 1 the messages away. -/
def without (h : History) (n : Int) : History where
  calls := if n.testBit 0 then [] else h.calls
  messages := if n.testBit 1 then [] else h.messages

end History

/-! ## 2. Sessions in which decisions are traced -/

/-- How many of the next decisions are recorded. -/
def Sampling.chosen (s : Sampling) : Nat → Draws → Nat
  | 0, _ => 0
  | n + 1, d =>
    match s.selects d with
    | (.ok true, d') => s.chosen n d' + 1
    | (_, d') => s.chosen n d'

theorem Sampling.chosen_mono {s : Sampling} {n n' : Nat} (h : n' ≤ n) (d : Draws) :
    s.chosen n' d ≤ s.chosen n d := by
  induction n generalizing n' d with
  | zero =>
    obtain rfl : n' = 0 := by omega
    rfl
  | succ n ih =>
    cases n' with
    | zero => exact Nat.zero_le _
    | succ n' =>
      have hle := ih (Nat.le_of_succ_le_succ h) (s.selects d).2
      unfold chosen
      rcases hx : s.selects d with ⟨_ | _ | _, d'⟩ <;> rw [hx] at hle
      · exact hle
      · exact hle
      · exact Nat.succ_le_succ hle

-- Whether sampling fails does not depend on the numbers drawn.
theorem Sampling.selects_eq_error {s : Sampling} {d : Draws} {u : Number.Binary64.Unbounded} :
    (s.selects d).1 = .error u ↔
      s.enabled = true ∧ s.rate.isAtLeastOne = false ∧ s.threshold = .error u := by
  unfold selects
  cases s.enabled with
  | false => simp
  | true =>
    cases s.rate.isAtLeastOne with
    | true => simp
    | false => cases s.threshold <;> simp [Except.map]

namespace Session

variable {e e' : Session} {sampling : Sampling} {n : Nat}

/-- The next decisions, as many as given, are traced without failure. -/
structure Traces (e : Session) (sampling : Sampling) (n : Nat) : Prop where
  samples : n ≠ 0 → ∀ u, (sampling.selects e.draws).1 ≠ .error u
  records : e.sink = .callback → e.Answers .record (sampling.chosen n e.draws)

theorem Traces.congr (traces : e.Traces sampling n) (draws : e'.draws = e.draws)
    (sink : e'.sink = e.sink) (faults : e'.faults .record = e.faults .record) :
    e'.Traces sampling n where
  samples := by
    rw [draws]
    exact traces.samples
  records := by
    rw [sink, draws]
    intro hsink fault hfault
    exact traces.records hsink fault (faults.symm.trans hfault)

theorem Traces.mono {n' : Nat} (traces : e.Traces sampling n) (h : n' ≤ n) :
    e.Traces sampling n' where
  samples hn := traces.samples (by omega)
  records hsink := (traces.records hsink).mono (Sampling.chosen_mono h e.draws)

theorem emit_traced {r : Record} (k : Nat)
    (records : e.sink = .callback → e.Answers .record (k + 1)) :
    (e.emit r).1 = .ok () ∧ (e.emit r).2.draws = e.draws ∧
      ((e.emit r).2.sink = .callback → (e.emit r).2.Answers .record k) := by
  have hone (hsink : e.sink = .callback) : e.Answers .record 1 :=
    (records hsink).mono (Nat.le_add_left 1 k)
  rw [emit_of_answers hone]
  obtain ⟨device, faults, draws, sink, journal⟩ := e
  cases sink with
  | callback =>
    have hnext := (answers_call (hone rfl) k).2 (records rfl)
    rw [call_state] at hnext
    exact ⟨rfl, rfl, fun _ => hnext⟩
  | buffer capacity held => exact ⟨rfl, rfl, nofun⟩
  | discard => exact ⟨rfl, rfl, nofun⟩

/-- A decision is traced, and one decision less is left that is. -/
theorem Traces.record (traces : e.Traces sampling (n + 1)) (d : Decision) :
    (e.record sampling d).1 = .ok () ∧ (e.record sampling d).2.Traces sampling n := by
  have hsamples (draws : Draws) (u : Number.Binary64.Unbounded) :
      (sampling.selects draws).1 ≠ .error u := by
    intro hu
    apply traces.samples (Nat.succ_ne_zero n) u
    exact Sampling.selects_eq_error.2 (Sampling.selects_eq_error.1 hu)
  have hrecords := traces.records
  unfold Session.record
  unfold Sampling.chosen at hrecords
  rcases hx : sampling.selects e.draws with ⟨u | _ | _, draws⟩
  · exact absurd (by rw [hx]) (hsamples e.draws u)
  · rw [hx] at hrecords
    exact ⟨rfl, fun _ => hsamples draws, hrecords⟩
  · rw [hx] at hrecords
    have hdrawn := emit_traced (e := { e with draws }) (r := ⟨d, e.device.now⟩)
      (sampling.chosen n draws) hrecords
    refine ⟨hdrawn.1, fun _ => hsamples _, fun hsink => ?_⟩
    rw [hdrawn.2.1]
    exact hdrawn.2.2 hsink

end Session

/-! ## 3. Clearing -/

namespace Blocked

variable {c : Context} {h : History} {e : Session} {k : Nat}

end Blocked

namespace Desk

variable {d : Desk} {e : Session} {k : Nat}

/-- The step that clears what an integer selects. -/
def clearing (n : Int) : Step := .request (.clearBlocked (.int n))

end Desk

end TelephonyAlerts
