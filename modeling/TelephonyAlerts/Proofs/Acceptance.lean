import TelephonyAlerts.Proofs.Fitting
import TelephonyAlerts.Wording

/-!
# What the check of a template promises

A template is accepted for a phrase if it has no fault and its fields start from arguments of the
phrase.  Paths, conversions and layouts are not looked at, so an accepted template can still fail
when it is filled in, and does so exactly where one of its fields does not fit its argument.
-/

namespace TelephonyAlerts

open TelephonyAlerts.Data TelephonyAlerts.Template

/-! ## 1. Templates that can stand for a phrase -/

/-- A template without a fault, whose fields start from arguments of a phrase. -/
structure Phrase.Accepts (p : Phrase) (template : String) : Prop where
  faultless : ∀ x ∈ scan template.toList, ∃ piece, x = .ok piece
  rooted : ∀ f ∈ fields template.toList, String.ofList f.root ∈ p.arguments

theorem inOrder_eq_nil {names : List String} (h : inOrder names = []) : names = [] := by
  -- sorting permutes the names, and leaving out repeated ones keeps the first
  have hperm := List.mergeSort_perm names.eraseDups fun a b => a ≤ b
  rw [show names.eraseDups.mergeSort (fun a b => a ≤ b) = [] from h] at hperm
  have hdups : names.eraseDups = [] := hperm.symm.eq_nil
  cases names with
  | nil => rfl
  | cons name rest =>
    rw [List.eraseDups_cons] at hdups
    cases hdups

theorem accepts_of_fieldNames {p : Phrase} {template : String} {names : List String}
    (h : fieldNames template = .ok names) (hnames : ∀ name ∈ names, name ∈ p.arguments) :
    p.Accepts template := by
  unfold fieldNames at h
  cases hpieces : pieces template.toList with
  | error cause =>
    rw [hpieces] at h
    cases h
  | ok ps =>
    rw [hpieces] at h
    have hscan : scan template.toList = ps.map .ok := mapM_id_eq_ok hpieces
    constructor
    · intro x hx
      rw [hscan] at hx
      obtain ⟨piece, -, rfl⟩ := List.mem_map.1 hx
      exact ⟨piece, rfl⟩
    · intro f hf
      apply hnames
      rw [← Except.ok.inj h]
      rw [mem_fields, hscan] at hf
      obtain ⟨piece, hpiece, hok⟩ := List.mem_map.1 hf
      obtain rfl := Except.ok.inj hok
      exact List.mem_map_of_mem (List.mem_filterMap.2 ⟨_, hpiece, rfl⟩)

theorem accepts_of_check {p : Phrase} {template : String}
    (h : Wording.check p template = .ok ()) : p.Accepts template := by
  unfold Wording.check at h
  cases hnames : fieldNames template with
  | error cause =>
    rw [hnames] at h
    cases h
  | ok names =>
    rw [hnames] at h
    dsimp only at h
    split at h
    · rename_i hextra
      refine accepts_of_fieldNames hnames fun name hname => ?_
      have hnone := List.filter_eq_nil_iff.1 (inOrder_eq_nil hextra) name hname
      simpa using hnone
    · cases h

theorem accepts_standard (p : Phrase) : p.Accepts p.standard := by
  -- the arguments of a phrase are by definition the fields of its standard template
  have hall : ∀ p ∈ Phrase.all, (fieldNames p.standard).isOk = true := by decide +kernel
  cases hnames : fieldNames p.standard with
  | error cause =>
    have hok := hall p p.mem_all
    rw [hnames] at hok
    cases hok
  | ok names =>
    refine accepts_of_fieldNames hnames fun name hname => ?_
    rw [Phrase.arguments, hnames]
    exact hname

theorem mem_of_get? {κ ν : Type} [DecidableEq κ] {m : Assoc κ ν} {k : κ} {v : ν}
    (h : m.get? k = some v) : (k, v) ∈ m := by
  induction m with
  | nil => cases h
  | cons entry rest ih =>
    obtain ⟨k', v'⟩ := entry
    rw [Assoc.get?] at h
    split at h
    · rename_i hk
      obtain rfl := Option.some.inj h
      rw [hk]
      exact List.mem_cons_self
    · exact List.mem_cons_of_mem _ (ih h)

theorem accepts_of_checked {known : Assoc Phrase String}
    (checked : known.forM (fun x => Wording.check x.1 x.2) = .ok ()) (p : Phrase) :
    p.Accepts (Wording.template ⟨known⟩ p) := by
  unfold Wording.template
  cases hreplaced : known.get? p with
  | none => exact accepts_standard p
  | some t => exact accepts_of_check (forM_eq_ok checked _ (mem_of_get? hreplaced))

/-- Replacements are accepted only where each can stand for its phrase. -/
theorem accepts_of_ofReplacements {replacements : Assoc String String} {w : Wording}
    (accepted : Wording.ofReplacements replacements = .ok w) (p : Phrase) :
    p.Accepts (w.template p) := by
  unfold Wording.ofReplacements at accepted
  split at accepted
  · obtain ⟨_, checked, hknown⟩ := bind_eq_ok accepted
    obtain rfl := Except.ok.inj hknown
    exact accepts_of_checked checked p
  · cases accepted

/-! ## 2. Filling in an accepted template -/

/-- The arguments that a phrase is rendered with, each of any kind. -/
def Phrase.Named (p : Phrase) (args : Arguments) : Prop :=
  ∀ name, name ∈ args.map (·.1) ↔ name ∈ p.arguments

theorem mem_of_find {args : Arguments} {name : List Char} {a : Argument}
    (h : args.find name = some a) : ∃ x ∈ args, x.2 = a := by
  obtain ⟨x, hx, ha⟩ := Option.map_eq_some_iff.1 h
  exact ⟨x, List.mem_reverse.1 (List.mem_of_find?_eq_some hx), ha⟩

theorem find_of_mem {args : Arguments} {name : List Char}
    (h : String.ofList name ∈ args.map (·.1)) : ∃ a, args.find name = some a := by
  obtain ⟨x, hx, hname⟩ := List.mem_map.1 h
  have hfound : (args.reverse.find? fun a => a.1.toList == name).isSome = true := by
    rw [List.find?_isSome]
    refine ⟨x, List.mem_reverse.2 hx, ?_⟩
    rw [hname]
    simp
  obtain ⟨y, hy⟩ := Option.isSome_iff_exists.1 hfound
  exact ⟨y.2, by rw [Arguments.find, hy]; rfl⟩

theorem root_of_mem {p : Phrase} {root : List Char} (h : String.ofList root ∈ p.arguments) :
    position? root = .ok none ∧ root ≠ [] := by
  -- no argument of a phrase has a name that counts as a position
  have hall : ∀ p ∈ Phrase.all, ∀ name ∈ p.arguments,
      (Text.spanDigits name.toList).1 = [] ∧ name.toList ≠ [] := by decide +kernel
  obtain ⟨hdigits, hne⟩ := hall p p.mem_all _ h
  rw [String.toList_ofList] at hdigits hne
  refine ⟨?_, hne⟩
  unfold position?
  split
  · rfl
  · rename_i hdigit hspan
    rw [hspan] at hdigits
    exact absurd hdigits hdigit

/-- A phrase with an accepted template has a text exactly where each field of the template fits
the argument that it starts from. -/
theorem text_ok {w : Wording} {p : Phrase} {args : Arguments} (accepts : p.Accepts (w.template p))
    (named : p.Named args) : (∃ t, w.text p args = .ok t) ↔
      ∀ f ∈ fields (w.template p).toList, ∀ a, args.find f.root = some a → f.Fits args a := by
  have hmap : (∃ t, w.text p args = .ok t) ↔
      ∃ t, renderWithin args 2 (w.template p).toList = .ok t := by
    unfold Wording.text render
    cases renderWithin args 2 (w.template p).toList <;> simp [Except.map]
  rw [hmap, renderWithin_ok]
  constructor
  · intro h f hf a ha
    obtain ⟨b, hvalue, layout, hreads, hsets⟩ := h.2 f hf
    obtain ⟨-, -, a', ha', hreaches⟩ := value_eq_ok.1 hvalue
    obtain rfl := Option.some.inj (ha'.symm.trans ha)
    exact ⟨b, hreaches, layout, hreads, hsets⟩
  · intro h
    refine ⟨accepts.faultless, fun f hf => ?_⟩
    have hroot := accepts.rooted f hf
    obtain ⟨a, ha⟩ := find_of_mem ((named _).2 hroot)
    obtain ⟨b, hreaches, layout, hreads, hsets⟩ := h f hf a ha
    obtain ⟨hposition, hne⟩ := root_of_mem hroot
    exact ⟨b, value_eq_ok.2 ⟨hposition, hne, a, ha, hreaches⟩, layout, hreads, hsets⟩

/-- An accepted template with bare fields only has a text, unless it shows a number that is too
long to be written. -/
theorem text_bare {w : Wording} {p : Phrase} {args : Arguments} (accepts : p.Accepts (w.template p))
    (named : p.Named args) (bare : ∀ f ∈ fields (w.template p).toList, f.Bare) :
    (∃ t, w.text p args = .ok t) ∨
      w.text p args = .error .tooLong ∧ ∃ x ∈ args, x.2.isWritable = false := by
  cases hrender : render args (w.template p).toList with
  | ok t => exact Or.inl ⟨String.ofList t, by rw [Wording.text, hrender]; rfl⟩
  | error cause =>
    right
    have htext : w.text p args = .error cause := by
      rw [Wording.text, hrender]
      rfl
    rcases renderPieces_eq_error hrender with ⟨fault, hfault⟩ | ⟨f, hf, hfield⟩
    · obtain ⟨piece, hpiece⟩ := accepts.faultless _ hfault
      cases hpiece
    · have hf : f ∈ fields (w.template p).toList := mem_fields.2 hf
      have hroot := accepts.rooted f hf
      obtain ⟨a, ha⟩ := find_of_mem ((named _).2 hroot)
      obtain ⟨hposition, hne⟩ := root_of_mem hroot
      have hvalue : f.value args = .ok a := by
        refine value_eq_ok.2 ⟨hposition, hne, a, ha, ?_⟩
        rw [(bare f hf).1]
        exact .here a
      obtain ⟨hwritable, rfl⟩ := (bare f hf).render_eq_error hvalue hfield
      obtain ⟨x, hx, rfl⟩ := mem_of_find ha
      exact ⟨htext, x, hx, hwritable⟩

end TelephonyAlerts
