import Mathlib.Algebra.Order.Field.Basic
import Mathlib.Algebra.Order.Field.Rat
import Mathlib.Data.List.Nodup
import Mathlib.Data.Rat.Cast.Order
import TelephonyAlerts.Proofs.Failures
import TelephonyAlerts.Proofs.SettingsForm

/-!
# Settings that are written and read again

Settings are read from the data that is written from them, whatever else the data holds besides.
What is read from any data are settings that can be written: their rate is a number between zero
and one, and their templates are accepted.
-/

namespace TelephonyAlerts

open TelephonyAlerts.Data TelephonyAlerts.Number

/-! ## 1. Pairs with distinct keys -/

namespace Data.Assoc

variable {κ ν : Type} [DecidableEq κ] {m : Assoc κ ν}

theorem insert_of_not_mem {k : κ} (h : k ∉ keys m) (v : ν) : insert m k v = m ++ [(k, v)] := by
  induction m with
  | nil => rfl
  | cons e m ih =>
    have hmem : ¬ (k = e.1 ∨ k ∈ keys m) := fun hk => h (List.mem_cons.2 hk)
    rw [not_or] at hmem
    show (if e.1 = k then (e.1, v) :: m else e :: insert m k v) = e :: (m ++ [(k, v)])
    rw [if_neg (Ne.symm hmem.1), ih hmem.2]

theorem foldl_insert_of_nodup (pairs : List (κ × ν)) (h : (keys (m ++ pairs)).Nodup) :
    pairs.foldl (fun acc p => insert acc p.1 p.2) m = m ++ pairs := by
  induction pairs generalizing m with
  | nil => simp
  | cons p pairs ih =>
    have hsplit : m ++ p :: pairs = m ++ [p] ++ pairs := by simp
    have hnew : p.1 ∉ keys m := by
      intro hp
      rw [keys, List.map_append, List.nodup_append] at h
      exact h.2.2 p.1 hp p.1 List.mem_cons_self rfl
    rw [List.foldl_cons, insert_of_not_mem hnew, hsplit]
    rw [hsplit] at h
    exact ih h

-- Pairs whose keys are distinct are kept as they are.
theorem ofPairs_of_nodup (h : (keys m).Nodup) : ofPairs m = m :=
  foldl_insert_of_nodup m h

theorem nodup_keys_insert (h : (keys m).Nodup) (k : κ) (v : ν) : (keys (insert m k v)).Nodup := by
  rw [keys_insert]
  by_cases hk : k ∈ keys m
  · rw [if_pos hk]
    exact h
  · rw [if_neg hk]
    rw [List.nodup_append]
    refine ⟨h, List.nodup_singleton k, fun a ha b hb hab => ?_⟩
    rw [hab, List.mem_singleton.1 hb] at ha
    exact hk ha

theorem nodup_keys_ofPairs (pairs : List (κ × ν)) : (keys (ofPairs pairs)).Nodup := by
  have hfold (m : Assoc κ ν) (h : (keys m).Nodup) :
      (keys (pairs.foldl (fun acc p => insert acc p.1 p.2) m)).Nodup := by
    induction pairs generalizing m with
    | nil => exact h
    | cons p pairs ih => exact ih (insert m p.1 p.2) (nodup_keys_insert h p.1 p.2)
  exact hfold [] List.nodup_nil

end Data.Assoc

/-! ## 2. Rates -/

namespace Number.Binary64

/-- The number that a number of the format stands for. -/
def value? (x : Binary64) : Option ℚ := x.fraction?.map fun (n, d) => (n : ℚ) / d

theorem magnitude_den_pos (m : Nat) (e : Int) : 0 < (magnitude m e).den := by
  cases e with
  | ofNat k => exact Nat.one_pos
  | negSucc k => exact Nat.pow_pos Nat.two_pos

theorem magnitude_num_eq_zero (m : Nat) (e : Int) : (magnitude m e).num = 0 ↔ m = 0 := by
  cases e with
  | ofNat k =>
    show m * 2 ^ k = 0 ↔ m = 0
    simp
  | negSucc k => exact Iff.rfl

/-- A rate is in range iff it stands for a number between zero and one. -/
theorem inUnit_iff {x : Binary64} : x.inUnit = true ↔ ∃ q, x.value? = some q ∧ 0 ≤ q ∧ q ≤ 1 := by
  cases x with
  | nan => exact iff_of_false nofun (by rintro ⟨q, hq, -⟩; cases hq)
  | infinite negative => exact iff_of_false nofun (by rintro ⟨q, hq, -⟩; cases hq)
  | finite negative m e =>
    have hden : (0 : ℚ) < (magnitude m e).den := Nat.cast_pos.2 (magnitude_den_pos m e)
    have hzero := magnitude_num_eq_zero m e
    have hvalue : (Binary64.finite negative m e).value? = some
        (((if negative then -((magnitude m e).num : Int) else (magnitude m e).num : Int) : ℚ) /
          (magnitude m e).den) := rfl
    simp only [hvalue, Option.some.injEq, exists_eq_left', inUnit]
    cases negative with
    | false =>
      have hle : (magnitude m e).num ≤ (magnitude m e).den ↔
          ((magnitude m e).num : ℚ) / (magnitude m e).den ≤ 1 := by
        rw [div_le_one hden, Nat.cast_le]
      have hnonneg : 0 ≤ ((magnitude m e).num : ℚ) / (magnitude m e).den :=
        div_nonneg (Nat.cast_nonneg _) hden.le
      simp [hle, hnonneg]
    | true =>
      by_cases hm : m = 0
      · -- the negative zero is in range
        subst hm
        simp [hzero.2 rfl]
      · have hpos : (0 : ℚ) < (magnitude m e).num :=
          Nat.cast_pos.2 (Nat.pos_of_ne_zero fun h => hm (hzero.1 h))
        have hneg : ¬ 0 ≤ -((magnitude m e).num : ℚ) / (magnitude m e).den :=
          not_le.2 (div_neg_of_neg_of_pos (neg_neg_of_pos hpos) hden)
        simp [hm, hneg]

end Number.Binary64

/-! ## 3. What is written -/

namespace Settings

variable {s : Settings} {d : Datum} {entries : List (Datum × Datum)}

/-- Templates as data, in their order. -/
def templates (strings : Assoc String String) : List (Datum × Datum) :=
  strings.map fun (k, v) => (.text k, .text v)

/-- A map that tells what each of the settings is.  It may tell more, and so may its parts about
what was blocked and about tracing. -/
structure Holds (s : Settings) (entries : List (Datum × Datum)) : Prop where
  voiceCapable : Datum.lookup "voice_capable" entries = some (.bool s.voiceCapable)
  blocked : ∃ blocked, Datum.lookup "blacklist" entries = some (.map blocked) ∧
    Datum.lookup "notify_enabled" blocked = some (.bool s.tellsBlocked)
  trace : ∃ trace, Datum.lookup "trace" entries = some (.map trace) ∧
    Datum.lookup "enabled" trace = some (.bool s.tracing.enabled) ∧
    Datum.lookup "sample_rate" trace = some (.float s.tracing.rate)
  strings : Datum.lookup "strings" entries = some (.map (templates s.strings))

/-- Settings that can be in force: a key has one template, the rate is a number between zero and
one, and the templates are accepted. -/
structure Acceptable (s : Settings) : Prop where
  distinct : s.strings.keys.Nodup
  rate : ∃ q, s.tracing.rate.value? = some q ∧ 0 ≤ q ∧ q ≤ 1
  worded : ∃ w, s.wording = .ok w

theorem holds_toDatum (s : Settings) : ∃ entries, s.toDatum = .map entries ∧ Holds s entries :=
  ⟨_, rfl, rfl, ⟨_, rfl, rfl⟩, ⟨_, rfl, rfl, rfl⟩, rfl⟩

theorem areWritableEntries_templates (strings : Assoc String String) :
    Datum.areWritableEntries (templates strings) = true := by
  induction strings with
  | nil => rfl
  | cons p strings ih =>
    show Datum.areWritableEntries ((.text p.1, .text p.2) :: templates strings) = true
    simp [Datum.areWritableEntries, Datum.isWritable, ih]

theorem readStrings_templates {strings : Assoc String String} (distinct : strings.keys.Nodup) :
    readStrings (templates strings) = .ok strings := by
  have hplain : (templates strings).map (fun e => (e.1.plain, e.2.plain)) = strings := by
    rw [templates, List.map_map]
    exact List.map_id strings
  have hread : readStrings (templates strings) =
      .ok (Assoc.ofPairs ((templates strings).map fun e => (e.1.plain, e.2.plain))) := by
    rw [readStrings, if_pos (areWritableEntries_templates strings)]
  rw [hread, hplain, Assoc.ofPairs_of_nodup distinct]

-- A map under a key is the part under it, also where it is empty and so counts as no.
theorem partOf_of_map {key : String} {es : List (Datum × Datum)}
    (h : Datum.lookup key entries = some (.map es)) : partOf key entries = .map es := by
  rw [partOf, h]
  cases es <;> rfl

theorem switch_of_bool {key : String} {b : Bool} {es : List (Datum × Datum)} (standard : Bool)
    (h : Datum.lookup key es = some (.bool b)) :
    Datum.switch (.map es) key standard = .ok b := by
  have hmember : Datum.member (.map es) key = .ok (some (.bool b)) := by
    rw [← h]
    rfl
  rw [Datum.switch, hmember]
  rfl

theorem readUnchecked_of_holds (holds : Holds s entries) (distinct : s.strings.keys.Nodup)
    (unit : s.tracing.rate.inUnit = true) : readUnchecked (.map entries) = .ok s := by
  obtain ⟨blocked, hblocked, htells⟩ := holds.blocked
  obtain ⟨trace, htrace, henabled, hrate⟩ := holds.trace
  have hrateOf : rateOf trace = .ok s.tracing.rate := by
    rw [rateOf, hrate]
    rfl
  have hstrings : (partOf "strings" entries).entries >>= readStrings = .ok s.strings := by
    rw [partOf_of_map holds.strings]
    exact readStrings_templates distinct
  have hwith : withRate entries s.tracing.rate = .ok s := by
    rw [withRate, hstrings, ok_bind, switch_of_bool true holds.voiceCapable, ok_bind,
      partOf_of_map hblocked, switch_of_bool true htells, ok_bind, partOf_of_map htrace,
      switch_of_bool false henabled, ok_bind]
    rfl
  rw [readUnchecked_map (by rw [partOf_of_map htrace]; rfl), hrateOf, mapError_of_ok, ok_bind,
    if_pos unit, hwith, mapError_of_ok]

theorem read_of_holds (acceptable : Acceptable s) (holds : Holds s entries) :
    read (.map entries) = .ok s := by
  obtain ⟨w, hw⟩ := acceptable.worded
  have hread := readUnchecked_of_holds holds acceptable.distinct
    (Binary64.inUnit_iff.2 acceptable.rate)
  rw [read, hread, ok_bind, hw]
  rfl

/-! ## 4. What is read -/

theorem nodup_of_readStrings {strings : Assoc String String}
    (h : readStrings entries = .ok strings) : strings.keys.Nodup := by
  unfold readStrings at h
  split at h
  · rw [← Except.ok.inj h]
    exact Assoc.nodup_keys_ofPairs _
  · cases h

theorem of_withRate {rate : Binary64} (h : withRate entries rate = .ok s) :
    s.tracing.rate = rate ∧ s.strings.keys.Nodup := by
  obtain ⟨strings, hstrings, h⟩ := bind_eq_ok h
  obtain ⟨es, -, hread⟩ := bind_eq_ok hstrings
  obtain ⟨voiceCapable, -, h⟩ := bind_eq_ok h
  obtain ⟨tellsBlocked, -, h⟩ := bind_eq_ok h
  obtain ⟨enabled, -, h⟩ := bind_eq_ok h
  rw [← Except.ok.inj h]
  exact ⟨rfl, nodup_of_readStrings hread⟩

theorem trace_of_readUnchecked (h : readUnchecked (.map entries) = .ok s) :
    ∃ trace, (partOf "trace" entries).entries = .ok trace := by
  cases htrace : (partOf "trace" entries).entries with
  | ok trace => exact ⟨trace, rfl⟩
  | error cause =>
    obtain ⟨cause', hmember⟩ := Datum.member_of_formless "sample_rate" htrace
    unfold readUnchecked at h
    simp only [part_map, hmember, mapError_of_ok, ok_bind] at h
    cases h

theorem of_readUnchecked_map (h : readUnchecked (.map entries) = .ok s) :
    s.tracing.rate.inUnit = true ∧ s.strings.keys.Nodup := by
  obtain ⟨trace, htrace⟩ := trace_of_readUnchecked h
  rw [readUnchecked_map htrace] at h
  obtain ⟨rate, -, h⟩ := bind_eq_ok h
  by_cases unit : rate.inUnit = true
  · rw [if_pos unit] at h
    have hwith := of_withRate (mapError_eq_ok.1 h)
    rw [hwith.1]
    exact ⟨unit, hwith.2⟩
  · rw [if_neg unit] at h
    cases h

-- A map that stands inside itself reads as an empty one, and no other datum is read.
theorem of_readUnchecked (h : readUnchecked d = .ok s) :
    s.tracing.rate.inUnit = true ∧ s.strings.keys.Nodup := by
  cases d with
  | map entries => exact of_readUnchecked_map h
  | loop isMap =>
    cases isMap with
    | true =>
      have hempty : readUnchecked (.map []) = .ok s := h
      exact of_readUnchecked_map hempty
    | false => cases h
  | _ => cases h

theorem acceptable_of_read (h : read d = .ok s) : Acceptable s := by
  obtain ⟨s', hunchecked, h⟩ := bind_eq_ok h
  cases hw : s'.wording with
  | error cause =>
    rw [hw] at h
    cases h
  | ok w =>
    rw [hw] at h
    cases h
    have hread := of_readUnchecked hunchecked
    exact ⟨hread.2, Binary64.inUnit_iff.1 hread.1, w, hw⟩

/-- Settings that can be in force are read from every map that tells what they are, the one that is
written from them included.  Whatever data is read, the settings that come of it can be in force,
and they are read again from what is written from them. -/
theorem read_toDatum :
    (∀ s : Settings, Acceptable s → (∃ entries, s.toDatum = .map entries ∧ Holds s entries) ∧
      read s.toDatum = .ok s ∧ ∀ entries, Holds s entries → read (.map entries) = .ok s) ∧
    ∀ (d : Datum) (s : Settings), read d = .ok s → Acceptable s ∧ read s.toDatum = .ok s := by
  have hagain (s : Settings) (acceptable : Acceptable s) : read s.toDatum = .ok s := by
    obtain ⟨entries, hdatum, holds⟩ := holds_toDatum s
    rw [hdatum]
    exact read_of_holds acceptable holds
  constructor
  · intro s acceptable
    exact ⟨holds_toDatum s, hagain s acceptable, fun entries => read_of_holds acceptable⟩
  · intro d s h
    have acceptable := acceptable_of_read h
    exact ⟨acceptable, hagain s acceptable⟩

/-- Half of the decisions are traced, and two templates are replaced. -/
def customary : Settings where
  voiceCapable := false
  tracing := { enabled := true, rate := .finite false (Nat.pow 2 52) (-53) }
  strings := [("voicemail_title", "Mail"), ("blacklist_call", "Blocked: \x7bnumber\x7d")]

/-- A map that tells the customary settings in another order, among other things. -/
def overfull : List (Datum × Datum) :=
  [(.int 7, .null), (.text "strings", .map (templates customary.strings)),
    (.text "trace", .map
      [(.text "format", .text "long"),
        (.text "sample_rate", .float (.finite false (Nat.pow 2 52) (-53))),
        (.text "enabled", .bool true)]),
    (.text "blacklist", .map [(.bool true, .list []), (.text "notify_enabled", .bool true)]),
    (.text "voice_capable", .bool false), (.text "version", .int 2)]

/-- A map that tells its settings by data of many kinds. -/
def careless : List (Datum × Datum) :=
  [(.text "voice_capable", .text ""), (.text "blacklist", .int 0),
    (.text "trace", .map [(.text "sample_rate", .text " 5e-1 "), (.text "enabled", .list [.null])]),
    (.text "strings", .map [(.text "voicemail_title", .int 5), (.text "roaming_title", .null)])]

theorem read_toDatum_careless :
    let s : Settings :=
      { voiceCapable := false
        tracing := customary.tracing
        strings := [("voicemail_title", "5"), ("roaming_title", "None")] }
    Acceptable customary ∧ read customary.toDatum = .ok customary ∧ Holds customary overfull ∧
      read (.map overfull) = .ok customary ∧
      read (.map careless) = .ok s ∧ Acceptable s ∧ read s.toDatum = .ok s := by
  intro s
  have worded : customary.wording.toOption.isSome = true := by decide +kernel
  have acceptable : Acceptable customary := by
    refine ⟨by decide, Binary64.inUnit_iff.1 (by decide +kernel), ?_⟩
    cases hw : customary.wording with
    | ok w => exact ⟨w, rfl⟩
    | error cause =>
      rw [hw] at worded
      cases worded
  have holds : Holds customary overfull := ⟨rfl, ⟨_, rfl, rfl⟩, ⟨_, rfl, rfl, rfl⟩, rfl⟩
  have hread : read (.map careless) = .ok s := toOption_eq_some.1 (by decide +kernel)
  obtain ⟨-, written, told⟩ := read_toDatum.1 customary acceptable
  obtain ⟨acceptable', again⟩ := read_toDatum.2 (.map careless) s hread
  exact ⟨acceptable, written, holds, told overfull holds, hread, acceptable', again⟩

end Settings

end TelephonyAlerts
