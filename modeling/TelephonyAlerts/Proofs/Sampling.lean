import TelephonyAlerts.Proofs.Operation

/-!
# Sampling

At a rate between zero and one it is always settled whether a decision is recorded.  What recording
then does is told by the trace alone: the sink, the numbers drawn and the records handed out.
-/

namespace TelephonyAlerts

open TelephonyAlerts.Number

/-! ## 1. Rates between zero and one -/

namespace Number

theorem log2_le_of_le_mul {n d k : Nat} (hn : n ≠ 0) (h : n ≤ Nat.pow 2 k * d) :
    n.log2 ≤ k + d.log2 := by
  have hd : d < 2 ^ (d.log2 + 1) := Nat.lt_log2_self
  have hlt : n < 2 ^ (k + (d.log2 + 1)) := calc
    n ≤ 2 ^ k * d := h
    _ < 2 ^ k * 2 ^ (d.log2 + 1) := Nat.mul_lt_mul_of_pos_left hd (Nat.two_pow_pos k)
    _ = 2 ^ (k + (d.log2 + 1)) := (Nat.pow_add 2 k (d.log2 + 1)).symm
  have := (Nat.log2_lt hn).2 hlt
  omega

namespace Binary64

theorem binade_le {r : Ratio} {k : Nat} (hn : r.num ≠ 0) (h : r.num ≤ Nat.pow 2 k * r.den) :
    binade r ≤ k := by
  have hlog := log2_le_of_le_mul hn h
  simp only [binade]
  split <;> omega

-- Quotients far below the largest number of the format do not overflow it.
theorem ofRatio_eq_finite (s : Bool) {r : Ratio} {k : Nat} (hk : k ≤ 1000)
    (h : r.num ≤ Nat.pow 2 k * r.den) : ∃ m q, ofRatio s r = .finite s m q := by
  unfold ofRatio
  by_cases hn : r.num = 0
  · rw [if_pos hn]
    exact ⟨0, -1074, rfl⟩
  · have hbinade := binade_le hn h
    rw [if_neg hn]
    -- the unit lies 52 binades below the quotient, and rounding may take it one binade up
    generalize hq : max (binade r - 52) (-1074) = q
    have hq' : q + 1 ≤ 971 := by omega
    by_cases hm : roundDiv (r.num * (Ratio.scaled r.den 2 q).den) (Ratio.scaled r.den 2 q).num
        = Nat.pow 2 53
    · simp only [if_pos hm, if_neg (show ¬ 971 < q + 1 by omega)]
      exact ⟨_, _, rfl⟩
    · simp only [if_neg hm, if_neg (show ¬ 971 < q by omega)]
      exact ⟨_, _, rfl⟩

end Binary64

end Number

namespace Sampling

variable {s : Sampling}

theorem threshold_ok (h : s.rate.inUnit) : ∃ t, s.threshold = .ok t := by
  unfold threshold
  cases hrate : s.rate with
  | nan => simp [hrate, Binary64.inUnit] at h
  | infinite _ => simp [hrate, Binary64.inUnit] at h
  | finite negative m e =>
    rw [hrate, Binary64.inUnit, Bool.and_eq_true, decide_eq_true_iff] at h
    have hle : (Binary64.magnitude m e).num * resolution ≤
        Nat.pow 2 10 * (Binary64.magnitude m e).den := by
      have hunit := h.2
      rw [resolution, show Nat.pow 2 10 = 1024 from rfl]
      omega
    obtain ⟨m', q, hscaled⟩ :=
      Binary64.ofRatio_eq_finite (r := ⟨_, _⟩) negative (by decide : 10 ≤ 1000) hle
    simp only [Binary64.scale, hscaled]
    exact ⟨_, rfl⟩

theorem selects_ok (h : s.rate.inUnit) (d : Draws) : ∃ b, (s.selects d).1 = .ok b := by
  obtain ⟨t, ht⟩ := threshold_ok h
  unfold selects
  split
  · exact ⟨_, rfl⟩
  · split
    · exact ⟨_, rfl⟩
    · rw [ht]
      exact ⟨_, rfl⟩

def always : Sampling := { enabled := true, rate := .one }

end Sampling

/-! ## 2. Traces -/

theorem Sink.keepLast_nil {α : Type} (capacity : Option Nat) :
    keepLast capacity ([] : List α) = [] := by
  cases capacity <;> simp [keepLast]

-- A record that comes to those kept pushes out the oldest.
theorem Sink.keepLast_snoc {α : Type} (capacity : Option Nat) (xs : List α) (x : α) :
    keepLast capacity (keepLast capacity xs ++ [x]) = keepLast capacity (xs ++ [x]) := by
  cases capacity with
  | none => rfl
  | some n =>
    -- either nothing is pushed out yet, or one record is
    have hlength : xs.length + 1 - n = xs.length - n + (xs.length - (xs.length - n) + 1 - n) := by
      omega
    simp only [keepLast, List.length_append, List.length_drop, List.length_singleton]
    rw [hlength, ← List.drop_drop, List.drop_append_of_le_length (Nat.sub_le _ _)]

/-- What recording decisions reads and leaves. -/
structure Trace where
  sink : Sink
  draws : Draws
  records : List Record

namespace Trace

/-- The records of a trace after those handed out before. -/
def after (earlier : List Record) (t : Trace) : Trace := { t with records := earlier ++ t.records }

/-- A record is handed to the sink, and a callback keeps it. -/
def emit (t : Trace) (r : Record) : Trace :=
  match t.sink with
  | .callback => { t with records := t.records ++ [r] }
  | sink => { t with sink := sink.add r }

/-- A record is taken if sampling selects it. -/
def take (t : Trace) (sampling : Sampling) (r : Record) : Trace :=
  let drawn := { t with draws := (sampling.selects t.draws).2 }
  match (sampling.selects t.draws).1 with
  | .ok true => drawn.emit r
  | _ => drawn

-- Taking a record hands it to the sink or passes it over, once the numbers are drawn.
theorem take_cases (t : Trace) (sampling : Sampling) (r : Record) :
    let drawn := { t with draws := (sampling.selects t.draws).2 }
    t.take sampling r = drawn ∨ t.take sampling r = drawn.emit r := by
  unfold take
  rcases (sampling.selects t.draws).1 with u | _ | _
  · exact Or.inl rfl
  · exact Or.inl rfl
  · exact Or.inr rfl

theorem emit_after (earlier : List Record) (t : Trace) (r : Record) :
    (t.after earlier).emit r = (t.emit r).after earlier := by
  obtain ⟨sink, draws, records⟩ := t
  cases sink with
  | callback => simp [after, emit]
  | buffer capacity held => rfl
  | discard => rfl

theorem take_after (earlier : List Record) (t : Trace) (sampling : Sampling) (r : Record) :
    (t.after earlier).take sampling r = (t.take sampling r).after earlier := by
  simp only [take]
  rcases h : (sampling.selects t.draws).1 with u | _ | _
  · rw [show (sampling.selects (t.after earlier).draws).1 = .error u from h]
    rfl
  · rw [show (sampling.selects (t.after earlier).draws).1 = .ok false from h]
    rfl
  · rw [show (sampling.selects (t.after earlier).draws).1 = .ok true from h]
    exact emit_after earlier { t with draws := (sampling.selects t.draws).2 } r

end Trace

namespace Session

/-- What is recorded so far and what decides on the next records. -/
def trace (e : Session) : Trace := ⟨e.sink, e.draws, e.journal.records⟩

/-- The session with another trace. -/
def withTrace (e : Session) (t : Trace) : Session :=
  { e with sink := t.sink, draws := t.draws, journal := { e.journal with records := t.records } }

theorem call_of_faultless {e : Session} {m : Method} (h : e.faults m = none) :
    e.call m = (.ok (), e) := by
  simp only [call, h]

theorem emit_eq_withTrace {e : Session} (h : e.faults .record = none) (r : Record) :
    e.emit r = (.ok (), e.withTrace (e.trace.emit r)) := by
  have hcall := call_of_faultless h
  obtain ⟨device, faults, draws, sink, journal⟩ := e
  cases sink with
  | callback =>
    simp only [emit, hcall]
    rfl
  | buffer capacity held => rfl
  | discard => rfl

/-- Where a callback takes the next record, a record goes to the sink, and what the callback will
refuse comes one record nearer. -/
theorem emit_of_answers {e : Session} (records : e.sink = .callback → e.Answers .record 1)
    (r : Record) : e.emit r = (.ok (), { e.withTrace (e.trace.emit r) with
      faults := if e.sink = .callback then e.nearer .record else e.faults }) := by
  obtain ⟨device, faults, draws, sink, journal⟩ := e
  cases sink with
  | callback =>
    have hcall := call_of_answers (records rfl)
    have hstate := call_state ⟨device, faults, draws, .callback, journal⟩ .record
    unfold emit
    rcases hx : call .record ⟨device, faults, draws, .callback, journal⟩ with ⟨r', e'⟩
    rw [hx] at hcall hstate
    obtain rfl : r' = .ok () := hcall
    obtain rfl : e' = _ := hstate
    rfl
  | buffer capacity held => rfl
  | discard => rfl

/-- Where recording cannot fail, it changes the trace alone. -/
theorem record_eq_withTrace {e : Session} {sampling : Sampling} (unit : sampling.rate.inUnit)
    (h : e.faults .record = none) (d : Decision) :
    e.record sampling d =
      (.ok (), e.withTrace (e.trace.take sampling ⟨d, e.device.now⟩)) := by
  obtain ⟨b, hb⟩ := Sampling.selects_ok unit e.draws
  unfold record Trace.take
  rw [show (sampling.selects e.trace.draws).1 = .ok b from hb, hb]
  cases b with
  | false => rfl
  | true => exact emit_eq_withTrace (e := { e with draws := (sampling.selects e.draws).2 }) h _

end Session

end TelephonyAlerts
