import Mathlib.Data.List.Basic
import TelephonyAlerts.Proofs.Results
import TelephonyAlerts.Settings.Read

/-!
# Which data can be read as settings

A map is read as settings or refused, as long as its parts are maps, the rate is a number and what
stands among the strings can be written.  Else reading fails with a form error, which is no refusal.
A rate that is out of range is refused before the other parts are looked at.
-/

namespace TelephonyAlerts

open TelephonyAlerts.Data TelephonyAlerts.Number

/-! ## 1. Parts -/

namespace Data.Datum

variable {d : Datum} {es : List (Datum × Datum)} {cause : FormError}

theorem member_of_entries (key : String) (h : d.entries = .ok es) :
    d.member key = .ok (lookup key es) := by
  cases d with
  | map entries =>
    obtain rfl := Except.ok.inj h
    rfl
  | loop isMap =>
    cases isMap with
    | true =>
      obtain rfl := Except.ok.inj h
      rfl
    | false => cases h
  | _ => cases h

theorem member_of_formless (key : String) (h : d.entries = .error cause) :
    ∃ cause, d.member key = .error cause := by
  cases d with
  | map entries => cases h
  | loop isMap =>
    cases isMap with
    | true => cases h
    | false => exact ⟨_, rfl⟩
  | _ => exact ⟨_, rfl⟩

-- A switch is read from every map and from nothing else.
theorem switch_ok (key : String) (standard : Bool) :
    (∃ b, d.switch key standard = .ok b) ↔ ∃ es, d.entries = .ok es := by
  cases hd : d.entries with
  | ok es =>
    refine iff_of_true ?_ ⟨es, rfl⟩
    rw [switch, member_of_entries key hd]
    exact ⟨_, rfl⟩
  | error cause =>
    obtain ⟨cause', hmember⟩ := member_of_formless key hd
    refine iff_of_false ?_ nofun
    rw [switch, hmember]
    exact nofun

end Data.Datum

namespace Settings

/-- The part of a map under a key: an empty map where what stands there counts as no, and the
map around it where that is what stands there. -/
def partOf (key : String) (entries : List (Datum × Datum)) : Datum :=
  match Datum.lookup key entries with
  | some (.loop true) => .map entries
  | some s => if s.isTruthy then s else .map []
  | none => .map []

theorem part_map (key : String) (entries : List (Datum × Datum)) :
    Datum.part (.map entries) key = .ok (partOf key entries) := by
  have hmember : Datum.member (.map entries) key = .ok (Datum.lookup key entries) := rfl
  unfold Datum.part partOf
  rw [hmember]
  cases Datum.lookup key entries with
  | none => rfl
  | some s =>
    cases s with
    | loop isMap => cases isMap <;> rfl
    | _ => rfl

def rateOf (trace : List (Datum × Datum)) : Except FormError Binary64 :=
  match Datum.lookup "sample_rate" trace with
  | some d => d.toFloat
  | none => .ok .one

/-- The settings with a rate that is in range. -/
def withRate (entries : List (Datum × Datum)) (rate : Binary64) : Except FormError Settings := do
  let strings ← (partOf "strings" entries).entries >>= readStrings
  let voiceCapable ← Datum.switch (.map entries) "voice_capable" true
  let tellsBlocked ← (partOf "blacklist" entries).switch "notify_enabled" true
  let enabled ← (partOf "trace" entries).switch "enabled" false
  return { voiceCapable, tellsBlocked, tracing := { enabled, rate }, strings }

variable {entries trace : List (Datum × Datum)} {rate : Binary64}

-- Past the part about tracing, what is read is the rate and then, if that is in range, the rest.
theorem readUnchecked_map (htrace : (partOf "trace" entries).entries = .ok trace) :
    readUnchecked (.map entries) = (rateOf trace).mapError .form >>= fun rate =>
      if rate.inUnit then (withRate entries rate).mapError .form
      else .error (.refused (.rateOutOfRange rate)) := by
  have rated (rate : Binary64) (k : Except ReadError Settings)
      (hk : k = (withRate entries rate).mapError .form) :
      (if !rate.inUnit then throw (.refused (.rateOutOfRange rate)) >>= fun _ : PUnit => k else k) =
        if rate.inUnit then (withRate entries rate).mapError .form
        else .error (.refused (.rateOutOfRange rate)) := by
    cases rate.inUnit with
    | true => exact hk
    | false => rfl
  unfold readUnchecked rateOf
  simp only [part_map, Datum.member_of_entries _ htrace, mapError_of_ok, ok_bind]
  cases Datum.lookup "sample_rate" trace with
  | none =>
    refine rated .one _ ?_
    simp only [withRate, mapError_bind, bind_assoc]
    rfl
  | some d =>
    refine congrArg (d.toFloat.mapError ReadError.form >>= ·) (funext fun rate => rated rate _ ?_)
    simp only [withRate, mapError_bind, bind_assoc]
    rfl

theorem readStrings_ok : (∃ strings, readStrings entries = .ok strings) ↔
    Datum.areWritableEntries entries = true := by
  unfold readStrings
  by_cases h : Datum.areWritableEntries entries = true
  · rw [if_pos h]
    exact iff_of_true ⟨_, rfl⟩ h
  · rw [if_neg h]
    exact iff_of_false nofun h

theorem withRate_ok (htrace : (partOf "trace" entries).entries = .ok trace) :
    (∃ s, withRate entries rate = .ok s) ↔
      (∃ blocked, (partOf "blacklist" entries).entries = .ok blocked) ∧
      ∃ strings, (partOf "strings" entries).entries = .ok strings ∧
        Datum.areWritableEntries strings = true := by
  constructor
  · intro h
    obtain ⟨s, h⟩ := h
    obtain ⟨replacements, hstrings, h⟩ := bind_eq_ok h
    obtain ⟨strings, hentries, hwritten⟩ := bind_eq_ok hstrings
    obtain ⟨capable, -, h⟩ := bind_eq_ok h
    obtain ⟨tells, htells, -⟩ := bind_eq_ok h
    exact ⟨(Datum.switch_ok _ _).1 ⟨tells, htells⟩, strings, hentries,
      readStrings_ok.1 ⟨replacements, hwritten⟩⟩
  · intro h
    obtain ⟨hblocked, strings, hentries, writable⟩ := h
    obtain ⟨replacements, hwritten⟩ := readStrings_ok.2 writable
    obtain ⟨capable, hcapable⟩ : ∃ b, Datum.switch (.map entries) "voice_capable" true = .ok b :=
      (Datum.switch_ok _ _).2 ⟨entries, rfl⟩
    obtain ⟨tells, htells⟩ := (Datum.switch_ok "notify_enabled" true).2 hblocked
    obtain ⟨enabled, henabled⟩ := (Datum.switch_ok "enabled" false).2 ⟨trace, htrace⟩
    unfold withRate
    rw [hentries, ok_bind, hwritten, hcapable, htells, henabled]
    exact ⟨_, rfl⟩

/-! ## 2. Legible data -/

/-- The parts that settings are read from are maps, the rate is a number, and what stands among
the strings can be written.  A rate that is out of range is all that is looked at. -/
def Legible (entries : List (Datum × Datum)) : Prop :=
  ∃ trace rate, (partOf "trace" entries).entries = .ok trace ∧ rateOf trace = .ok rate ∧
    (rate.inUnit = true → (∃ blocked, (partOf "blacklist" entries).entries = .ok blocked) ∧
      ∃ strings, (partOf "strings" entries).entries = .ok strings ∧
        Datum.areWritableEntries strings = true)

theorem legible_iff (htrace : (partOf "trace" entries).entries = .ok trace)
    (hrate : rateOf trace = .ok rate) :
    Legible entries ↔ (rate.inUnit = true → ∃ s, withRate entries rate = .ok s) := by
  rw [withRate_ok htrace]
  constructor
  · intro h
    obtain ⟨trace', rate', htrace', hrate', h⟩ := h
    rw [htrace] at htrace'
    obtain rfl := Except.ok.inj htrace'
    rw [hrate] at hrate'
    obtain rfl := Except.ok.inj hrate'
    exact h
  · exact fun h => ⟨trace, rate, htrace, hrate, h⟩

/-- A reading that does not fail, or by refusing the settings. -/
def Documented {α : Type} (r : Except ReadError α) : Prop := ∀ cause, r ≠ .error (.form cause)

theorem read_documented (entries : List (Datum × Datum)) :
    Documented (read (.map entries)) ↔ Legible entries := by
  cases htrace : (partOf "trace" entries).entries with
  | error cause =>
    obtain ⟨cause', hmember⟩ := Datum.member_of_formless "sample_rate" htrace
    refine iff_of_false (fun h => h cause' ?_) ?_
    · unfold read readUnchecked
      simp only [part_map, hmember, mapError_of_ok, ok_bind]
      rfl
    · rintro ⟨trace, _, h, -⟩
      rw [htrace] at h
      cases h
  | ok trace =>
    unfold read
    rw [readUnchecked_map htrace]
    cases hrate : rateOf trace with
    | error cause =>
      refine iff_of_false (fun h => h cause rfl) ?_
      rintro ⟨trace', rate, htrace', hrate', -⟩
      rw [htrace] at htrace'
      obtain rfl := Except.ok.inj htrace'
      rw [hrate] at hrate'
      cases hrate'
    | ok rate =>
      rw [legible_iff htrace hrate]
      simp only [mapError_of_ok, ok_bind]
      cases rate.inUnit with
      | false => exact iff_of_true (fun _ h => nomatch h) nofun
      | true =>
        cases withRate entries rate with
        | error cause => exact iff_of_false (fun h => h cause rfl) fun h => nomatch h rfl
        | ok s =>
          -- what is left is to look at the wording, which is refused if it is wrong
          refine iff_of_true (fun cause h => ?_) fun _ => ⟨s, rfl⟩
          rw [if_pos rfl, mapError_of_ok, ok_bind] at h
          cases hw : s.wording <;> rw [hw] at h <;> cases h

/-! ## 3. Loading -/

theorem family_of_form (cause : FormError) : cause.family ≠ .settings := by
  cases cause <;> exact nofun

-- As failures go, those to refuse the settings are told from all others by their family.
theorem documented_iff_family {α : Type} (r : Except ReadError α) :
    (∀ f, r.mapError Failure.ofRead = .error f → f.family = .settings) ↔ Documented r := by
  cases r with
  | ok a => exact iff_of_true nofun (fun _ => nofun)
  | error e =>
    cases e with
    | form cause =>
      refine iff_of_false (fun h => ?_) fun h => h cause rfl
      exact family_of_form cause (h (.form cause) rfl)
    | refused cause =>
      refine iff_of_true (fun f h => ?_) (fun _ => nofun)
      rw [← Except.error.inj h]
      rfl

/-- Whatever a map holds, reading it answers with settings or refuses them iff the map is legible,
and so does loading a file that holds it. -/
theorem loading_documented_iff (entries : List (Datum × Datum)) :
    ((∀ f, (read (.map entries)).mapError Failure.ofRead = .error f → f.family = .settings) ↔
      Legible entries) ∧
    ∀ path content, readFile path content = .ok (.map entries) →
      ((∀ f, ofFile path content = .error f → f.family = .settings) ↔ Legible entries) := by
  have documented := (documented_iff_family (read (.map entries))).trans (read_documented entries)
  refine ⟨documented, fun path content held => ?_⟩
  unfold ofFile
  rw [held]
  exact documented

/-- A file whose rate is a word. -/
def worded : List UInt8 :=
  "trace:\n  sample_rate: fast\n".toList.map fun c => UInt8.ofNat c.toNat

theorem loading_documented_iff_worded :
    ∃ entries f, readFile "settings.yaml" (some worded) = .ok (.map entries) ∧
      ofFile "settings.yaml" (some worded) = .error f ∧ f.family = .value ∧
      f.message = "could not convert string to float: 'fast'" ∧ ¬ Legible entries := by
  have held : ((readFile "settings.yaml" (some worded)).toOption.bind fun d =>
      (d.member "trace").toOption.join).isSome = true := by decide +kernel
  have fails : (ofFile "settings.yaml" (some worded)).mapError (fun f => (f.family, f.message)) =
      .error (.value, "could not convert string to float: 'fast'") := by decide +kernel
  obtain ⟨entries, hread⟩ : ∃ entries,
      readFile "settings.yaml" (some worded) = .ok (.map entries) := by
    cases hread : readFile "settings.yaml" (some worded) with
    | error f =>
      rw [hread] at held
      cases held
    | ok d =>
      rw [hread] at held
      cases d with
      | map entries => exact ⟨entries, rfl⟩
      | loop isMap => cases isMap <;> cases held
      | _ => cases held
  cases hfile : ofFile "settings.yaml" (some worded) with
  | ok s =>
    rw [hfile] at fails
    cases fails
  | error f =>
    rw [hfile] at fails
    obtain ⟨hfamily, hmessage⟩ := Prod.mk.inj (Except.error.inj fails)
    refine ⟨entries, f, hread, rfl, hfamily, hmessage, fun legible => ?_⟩
    have documented := ((loading_documented_iff entries).2 _ _ hread).2 legible f hfile
    rw [hfamily] at documented
    cases documented

end Settings

end TelephonyAlerts
