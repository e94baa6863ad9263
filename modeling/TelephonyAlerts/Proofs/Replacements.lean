import Mathlib.Data.List.Basic
import TelephonyAlerts.Proofs.Acceptance

/-!
# Replacements one by one

Replacements are accepted iff each of them is accepted alone, in whatever order they come.  Where
some are refused, the keys that no phrase has are told first, all of them and in order; else the
first replacement that is refused alone tells why.  An accepted replacement changes the text of its
own phrase and of no other.
-/

namespace TelephonyAlerts

open TelephonyAlerts.Data TelephonyAlerts.Template

/-! ## 1. Texts in order -/

theorem nodup_eraseDups : ∀ names : List String, names.eraseDups.Nodup
  | [] => by
    rw [List.eraseDups_nil]
    exact List.nodup_nil
  | name :: rest => by
    rw [List.eraseDups_cons]
    refine List.nodup_cons.2 ⟨fun h => ?_, nodup_eraseDups _⟩
    have hkept := (List.mem_filter.1 (List.mem_eraseDups.1 h)).2
    simp at hkept
termination_by names => names.length
decreasing_by exact Nat.lt_succ_of_le (List.length_filter_le _ _)

theorem inOrder_nil : inOrder [] = [] := by
  rw [inOrder, List.eraseDups_nil, List.mergeSort_nil]

theorem mem_inOrder {names : List String} {name : String} :
    name ∈ inOrder names ↔ name ∈ names := by
  rw [inOrder, List.mem_mergeSort, List.mem_eraseDups]

theorem inOrder_ascends (names : List String) : (inOrder names).Pairwise (· < ·) := by
  have hsorted : (inOrder names).Pairwise fun a b => decide (a ≤ b) = true := by
    refine List.pairwise_mergeSort (fun a b c hab hbc => ?_) (fun a b => ?_) _
    · exact decide_eq_true (String.le_trans (of_decide_eq_true hab) (of_decide_eq_true hbc))
    · simpa using String.le_total a b
  have hdistinct : (inOrder names).Nodup :=
    (List.mergeSort_perm _ _).nodup_iff.2 (nodup_eraseDups names)
  refine (hsorted.and hdistinct).imp fun {a b} h => ?_
  obtain ⟨hle, hne⟩ := h
  exact String.not_le.1 fun hge => hne (String.le_antisymm (of_decide_eq_true hle) hge)

/-! ## 2. Replacements under known keys -/

/-- The value under a key, if there is one, and nothing else. -/
def Data.Assoc.only {κ ν : Type} [DecidableEq κ] (m : Assoc κ ν) (k : κ) : Assoc κ ν :=
  (m.get? k).toList.map fun v => (k, v)

theorem get?_only {κ ν : Type} [DecidableEq κ] (m : Assoc κ ν) (k : κ) :
    (m.only k).get? k = m.get? k := by
  unfold Assoc.only
  cases m.get? k with
  | none => rfl
  | some v => exact if_pos rfl

theorem mem_of_mem_only {κ ν : Type} [DecidableEq κ] {m : Assoc κ ν} {k : κ} {e : κ × ν}
    (h : e ∈ m.only k) : e ∈ m := by
  obtain ⟨v, hv, rfl⟩ := List.mem_map.1 h
  exact mem_of_get? (Option.mem_toList.1 hv)

namespace Wording

/-- A key that some phrase has. -/
def Known (key : String) : Prop := ∃ p : Phrase, p.key = key

def Accepted (replacements : Assoc String String) : Prop :=
  ∃ w, ofReplacements replacements = .ok w

theorem ofKey?_isNone {key : String} : (Phrase.ofKey? key).isNone = true ↔ ¬ Known key := by
  constructor
  · rintro hnone ⟨p, rfl⟩
    rw [Phrase.ofKey?_key] at hnone
    cases hnone
  · intro unknown
    rw [Option.isNone_iff_eq_none, Phrase.ofKey?, List.find?_eq_none]
    intro p _ hp
    exact unknown ⟨p, eq_of_beq hp⟩

theorem ofReplacements_unknown {rs : Assoc String String} (h : ∃ r ∈ rs, ¬ Known r.1) :
    ofReplacements rs =
      .error (.unknownKeys (inOrder (rs.keys.filter fun k => (Phrase.ofKey? k).isNone))) := by
  obtain ⟨r, hr, unknown⟩ := h
  have hmem : r.1 ∈ inOrder (rs.keys.filter fun k => (Phrase.ofKey? k).isNone) :=
    mem_inOrder.2 (List.mem_filter.2 ⟨List.mem_map_of_mem hr, ofKey?_isNone.2 unknown⟩)
  unfold ofReplacements
  split
  · rename_i hnone
    rw [hnone] at hmem
    cases hmem
  · rfl

/-- Templates for some phrases, under the keys of the phrases. -/
def keyed (known : Assoc Phrase String) : Assoc String String :=
  known.map fun x => (x.1.key, x.2)

variable {known : Assoc Phrase String}

theorem exists_keyed {rs : Assoc String String} (h : ∀ r ∈ rs, Known r.1) :
    ∃ known, rs = keyed known := by
  induction rs with
  | nil => exact ⟨[], rfl⟩
  | cons r rest ih =>
    obtain ⟨key, template⟩ := r
    obtain ⟨⟨p, rfl⟩, hrest⟩ := List.forall_mem_cons.1 h
    obtain ⟨known, rfl⟩ := ih hrest
    exact ⟨(p, template) :: known, rfl⟩

theorem known_of_mem_keyed {r : String × String} (h : r ∈ keyed known) : Known r.1 := by
  obtain ⟨x, -, rfl⟩ := List.mem_map.1 h
  exact ⟨x.1, rfl⟩

theorem get?_keyed (known : Assoc Phrase String) (p : Phrase) :
    (keyed known).get? p.key = known.get? p := by
  induction known with
  | nil => rfl
  | cons x rest ih =>
    show (if x.1.key = p.key then some x.2 else (keyed rest).get? p.key) =
      if x.1 = p then some x.2 else Assoc.get? rest p
    rw [ih]
    by_cases hx : x.1 = p
    · rw [if_pos hx, if_pos (congrArg Phrase.key hx)]
    · rw [if_neg hx, if_neg fun hkey => hx (Phrase.key_injective hkey)]

theorem only_keyed (known : Assoc Phrase String) (p : Phrase) :
    (keyed known).only p.key = keyed (known.only p) := by
  rw [Assoc.only, get?_keyed, keyed, Assoc.only, List.map_map]
  rfl

theorem filterMap_keyed {read : String × String → Option (Phrase × String)}
    (h : ∀ p template, read (p.key, template) = some (p, template)) :
    (keyed known).filterMap read = known := by
  have hread : read ∘ (fun x : Phrase × String => (x.1.key, x.2)) = some :=
    funext fun x => h x.1 x.2
  rw [keyed, List.filterMap_map, hread, List.filterMap_some]

theorem ofReplacements_keyed (known : Assoc Phrase String) :
    ofReplacements (keyed known) = (known.forM fun x => check x.1 x.2).map fun _ => ⟨known⟩ := by
  have hunknown : ((keyed known).keys.filter fun k => (Phrase.ofKey? k).isNone) = [] := by
    rw [List.filter_eq_nil_iff]
    intro key hkey hnone
    obtain ⟨r, hr, rfl⟩ := List.mem_map.1 hkey
    exact ofKey?_isNone.1 hnone (known_of_mem_keyed hr)
  have hchecks (checks : Except WordingError Unit) :
      (checks >>= fun _ => pure ⟨known⟩) = checks.map fun _ => (⟨known⟩ : Wording) := by
    cases checks <;> rfl
  unfold ofReplacements
  rw [hunknown, inOrder_nil, filterMap_keyed]
  · exact hchecks _
  · intro p template
    show (Phrase.ofKey? p.key).map (·, template) = some (p, template)
    rw [Phrase.ofKey?_key]
    rfl

theorem ofReplacements_alone (p : Phrase) (template : String) :
    ofReplacements [(p.key, template)] = (check p template).map fun _ => ⟨[(p, template)]⟩ := by
  refine (ofReplacements_keyed [(p, template)]).trans ?_
  show (check p template >>= fun _ => (.ok () : Except WordingError Unit)).map _ = _
  cases check p template <;> rfl

theorem accepted_alone {p : Phrase} {template : String} :
    Accepted [(p.key, template)] ↔ check p template = .ok () := by
  unfold Accepted
  rw [ofReplacements_alone]
  cases check p template with
  | error cause => exact iff_of_false nofun nofun
  | ok _ => exact iff_of_true ⟨_, rfl⟩ rfl

/-! ## 3. All together and each alone -/

-- Known keys apart, what all together come to is what the first that is refused alone comes to.
theorem keyed_cases (known : Assoc Phrase String) :
    (ofReplacements (keyed known) = .ok ⟨known⟩ ∧ ∀ r ∈ keyed known, Accepted [r]) ∨
      ∃ before r after cause, keyed known = before ++ r :: after ∧
        (∀ r' ∈ before, Accepted [r']) ∧ ofReplacements [r] = .error cause ∧
        ofReplacements (keyed known) = .error cause := by
  have accepted {part : Assoc Phrase String} (h : ∀ x ∈ part, check x.1 x.2 = .ok ()) :
      ∀ r ∈ keyed part, Accepted [r] := by
    intro r hr
    obtain ⟨x, hx, rfl⟩ := List.mem_map.1 hr
    exact accepted_alone.2 (h x hx)
  rw [ofReplacements_keyed]
  obtain ⟨hforM, hall⟩ | ⟨before, x, after, cause, rfl, hbefore, hx, hforM⟩ :=
    forM_cases (fun x : Phrase × String => check x.1 x.2) known
  · rw [hforM]
    exact Or.inl ⟨rfl, accepted hall⟩
  · rw [hforM]
    refine Or.inr ⟨keyed before, (x.1.key, x.2), keyed after, cause, ?_, accepted hbefore, ?_, rfl⟩
    · rw [keyed, List.map_append]
      rfl
    · rw [ofReplacements_alone, hx]
      rfl

variable {rs : Assoc String String}

theorem accepted_iff : Accepted rs ↔ ∀ r ∈ rs, Known r.1 ∧ Accepted [r] := by
  by_cases h : ∀ r ∈ rs, Known r.1
  · obtain ⟨known, rfl⟩ := exists_keyed h
    obtain ⟨hok, hall⟩ | ⟨before, r, after, cause, hsplit, -, halone, herror⟩ := keyed_cases known
    · exact iff_of_true ⟨_, hok⟩ fun r hr => ⟨h r hr, hall r hr⟩
    · refine iff_of_false (fun ⟨w, hw⟩ => nomatch herror.symm.trans hw) fun hall => ?_
      have hr : r ∈ keyed known := by
        rw [hsplit]
        exact List.mem_append_right _ List.mem_cons_self
      obtain ⟨w, hw⟩ := (hall r hr).2
      exact nomatch halone.symm.trans hw
  · refine iff_of_false (fun ⟨w, hw⟩ => ?_) fun hall => h fun r hr => (hall r hr).1
    have unknown : ∃ r ∈ rs, ¬ Known r.1 := by
      simpa using h
    exact nomatch (ofReplacements_unknown unknown).symm.trans hw

theorem accepted_perm {rs' : Assoc String String} (h : rs'.Perm rs) :
    Accepted rs' ↔ Accepted rs := by
  rw [accepted_iff, accepted_iff]
  exact forall_congr' fun r => by rw [h.mem_iff]

theorem refused_unknown (h : ∃ r ∈ rs, ¬ Known r.1) :
    ∃ keys, ofReplacements rs = .error (.unknownKeys keys) ∧ keys.Pairwise (· < ·) ∧
      ∀ key, key ∈ keys ↔ key ∈ rs.keys ∧ ¬ Known key := by
  refine ⟨_, ofReplacements_unknown h, inOrder_ascends _, fun key => ?_⟩
  rw [mem_inOrder, List.mem_filter, ofKey?_isNone]

theorem refused_first {cause : WordingError} (h : ∀ r ∈ rs, Known r.1)
    (refused : ofReplacements rs = .error cause) :
    ∃ before r after, rs = before ++ r :: after ∧ (∀ r' ∈ before, Accepted [r']) ∧
      ofReplacements [r] = .error cause := by
  obtain ⟨known, rfl⟩ := exists_keyed h
  obtain ⟨hok, -⟩ | ⟨before, r, after, cause', hsplit, hbefore, halone, herror⟩ := keyed_cases known
  · exact nomatch hok.symm.trans refused
  · obtain rfl : cause' = cause := Except.error.inj (herror.symm.trans refused)
    exact ⟨before, r, after, hsplit, hbefore, halone⟩

theorem text_only {w : Wording} (accepted : ofReplacements rs = .ok w) (p : Phrase) :
    ∃ own, ofReplacements (rs.only p.key) = .ok own ∧
      ∀ args, w.text p args = own.text p args := by
  have hall := accepted_iff.1 ⟨w, accepted⟩
  obtain ⟨known, rfl⟩ := exists_keyed fun r hr => (hall r hr).1
  obtain ⟨own, hown⟩ : Accepted ((keyed known).only p.key) :=
    accepted_iff.2 fun r hr => hall r (mem_of_mem_only hr)
  refine ⟨own, hown, fun args => ?_⟩
  rw [only_keyed] at hown
  -- what is accepted is taken over as it is, and looking a phrase up finds its own template
  have taken {part : Assoc Phrase String} {v : Wording}
      (h : ofReplacements (keyed part) = .ok v) : v = ⟨part⟩ := by
    rw [ofReplacements_keyed] at h
    cases hforM : part.forM fun x => check x.1 x.2 with
    | error cause =>
      rw [hforM] at h
      cases h
    | ok _ =>
      rw [hforM] at h
      exact (Except.ok.inj h).symm
  rw [taken accepted, taken hown, text, text, template, template, get?_only]

/-- Replacements are accepted iff each has a known key and is accepted alone, in whatever order they
come.  If some have an unknown key, exactly these keys are told, in ascending order, whatever the
templates are.  Else, if they are refused, it is for the reason for which the first that is refused
alone is.  If they are accepted, every phrase is rendered as if only its own replacement had been
made, or none. -/
theorem replacements_pointwise (rs : Assoc String String) :
    (Accepted rs ↔ ∀ r ∈ rs, Known r.1 ∧ Accepted [r]) ∧
    (∀ rs', rs'.Perm rs → (Accepted rs' ↔ Accepted rs)) ∧
    ((∃ r ∈ rs, ¬ Known r.1) → ∃ keys, ofReplacements rs = .error (.unknownKeys keys) ∧
      keys.Pairwise (· < ·) ∧ ∀ key, key ∈ keys ↔ key ∈ rs.keys ∧ ¬ Known key) ∧
    ((∀ r ∈ rs, Known r.1) → ∀ cause, ofReplacements rs = .error cause →
      ∃ before r after, rs = before ++ r :: after ∧ (∀ r' ∈ before, Accepted [r']) ∧
        ofReplacements [r] = .error cause) ∧
    ∀ w, ofReplacements rs = .ok w → ∀ p, ∃ own, ofReplacements (rs.only p.key) = .ok own ∧
      ∀ args, w.text p args = own.text p args :=
  ⟨accepted_iff, fun _ => accepted_perm, refused_unknown, fun h _ => refused_first h,
    fun _ accepted p => text_only accepted p⟩

/-- Two keys are unknown, beside a template that is none; two templates are refused, of which the
one that comes first tells; two are accepted. -/
theorem replacements_pointwise_mixed :
    let strange : Assoc String String :=
      [("voicemail_title", "\x7b"), ("zebra", ""), ("Apple", "\x7d"), ("zebra ", "")]
    let misfit : Assoc String String :=
      [("roaming_title", "Roaming"), ("blacklist_call", "\x7bwho\x7d"), ("voicemail_title", "\x7b")]
    let sound : Assoc String String :=
      [("roaming_title", "Roaming"), ("blacklist_call", "\x7bnumber\x7d!")]
    (∃ keys, ofReplacements strange = .error (.unknownKeys keys) ∧ keys.Pairwise (· < ·) ∧
      "Apple" ∈ keys ∧ "zebra" ∈ keys ∧ "voicemail_title" ∉ keys) ∧
    (∃ before r after, misfit = before ++ r :: after ∧ (∀ r' ∈ before, Accepted [r']) ∧
      ofReplacements [r] = .error (.unknownFields "blacklist_call" ["who"])) ∧
    Accepted sound.reverse ∧
    ∃ w own, ofReplacements sound = .ok w ∧
      ofReplacements [("blacklist_call", "\x7bnumber\x7d!")] = .ok own ∧
      ∀ args, w.text .blacklistCall args = own.text .blacklistCall args := by
  intro strange misfit sound
  have apple : ¬ Known "Apple" := ofKey?_isNone.1 (by decide +kernel)
  have zebra : ¬ Known "zebra" := ofKey?_isNone.1 (by decide +kernel)
  refine ⟨?_, ?_, ?_, ?_⟩
  · obtain ⟨keys, refused, ascends, told⟩ :=
      (replacements_pointwise strange).2.2.1 ⟨("zebra", ""), by simp [strange], zebra⟩
    refine ⟨keys, refused, ascends, (told _).2 ⟨by decide, apple⟩, (told _).2 ⟨by decide, zebra⟩,
      fun h => ((told _).1 h).2 ⟨.voicemailTitle, rfl⟩⟩
  · have known : ∀ r ∈ misfit, Known r.1 := by
      have hmisfit : misfit = keyed [(.roamingTitle, "Roaming"), (.blacklistCall, "\x7bwho\x7d"),
        (.voicemailTitle, "\x7b")] := rfl
      exact fun r hr => known_of_mem_keyed (hmisfit ▸ hr)
    exact (replacements_pointwise misfit).2.2.2.1 known _ (by decide +kernel)
  · have accepted : Accepted sound := ⟨⟨[(.roamingTitle, "Roaming"),
      (.blacklistCall, "\x7bnumber\x7d!")]⟩, by decide +kernel⟩
    exact ((replacements_pointwise sound).2.1 _ (List.reverse_perm sound)).2 accepted
  · have accepted : ofReplacements sound = .ok ⟨[(.roamingTitle, "Roaming"),
      (.blacklistCall, "\x7bnumber\x7d!")]⟩ := by decide +kernel
    obtain ⟨own, hown, htext⟩ := (replacements_pointwise sound).2.2.2.2 _ accepted .blacklistCall
    exact ⟨_, own, accepted, hown, htext⟩

end Wording

end TelephonyAlerts
