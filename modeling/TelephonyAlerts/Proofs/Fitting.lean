import TelephonyAlerts.Proofs.Results
import TelephonyAlerts.Template.Render

/-!
# When a template can be filled in

A template can be filled in exactly where each of its fields fits the arguments: its path can be
followed, its conversion is known, and its layout can be read and admits the value.
-/

namespace TelephonyAlerts.Template

/-! ## 1. Paths -/

def inName (c : Char) : Bool := c != '.' && c != '['

/-- The steps of a path lead from one value to another: members of texts and numbers, and
characters of texts by their position. -/
inductive Reaches : Argument → List Char → Argument → Prop
  | here (a : Argument) : Reaches a [] a
  | member {a b c : Argument} {name rest : List Char} (inside : ∀ x ∈ name, inName x = true)
      (stops : ∀ x ∈ rest.head?, inName x = false) (found : a.member? name = some b)
      (reaches : Reaches b rest c) : Reaches a ('.' :: (name ++ rest)) c
  | item {s name rest : List Char} {i : Nat} {x : Char} {c : Argument} (inside : ']' ∉ name)
      (position : position? name = .ok (some i)) (found : s[i]? = some x)
      (reaches : Reaches (.text [x]) rest c) : Reaches (.text s) ('[' :: (name ++ ']' :: rest)) c

variable {a b : Argument} {name : List Char}

theorem commonMember?_empty (k : ArgKind) : Argument.commonMember? k "" = none := by
  cases k <;> decide +kernel

theorem member_eq_ok : a.member name = .ok b ↔ a.member? name = some b := by
  unfold Argument.member
  cases name with
  | nil => cases a <;> simp [Argument.member?, commonMember?_empty]
  | cons c rest =>
    rw [if_neg (by simp)]
    cases a.member? (c :: rest) <;> simp

theorem item_eq_ok : a.item name = .ok b ↔ ∃ s i x, a = .text s ∧ position? name = .ok (some i) ∧
    s[i]? = some x ∧ b = .text [x] := by
  unfold Argument.item
  cases hposition : position? name with
  | error cause => simp [bind, Except.bind]
  | ok index =>
    have hname : name = [] → index = none := by
      intro h
      rw [h] at hposition
      exact (Except.ok.inj hposition).symm
    cases name with
    | nil => simp [bind, Except.bind, hname rfl, throw, throwThe, MonadExceptOf.throw]
    | cons c rest =>
      cases a with
      | number n => simp [bind, Except.bind, throw, throwThe, MonadExceptOf.throw]
      | thing t => simp [bind, Except.bind, throw, throwThe, MonadExceptOf.throw]
      | text s =>
        cases index with
        | none => simp [bind, Except.bind, throw, throwThe, MonadExceptOf.throw]
        | some i =>
          cases hi : s[i]? with
          | none => simp [bind, Except.bind, hi, throw, throwThe, MonadExceptOf.throw]
          | some x => simp [bind, Except.bind, hi, pure, Except.pure, eq_comm]

theorem takeWhile_inName {name rest : List Char} (inside : ∀ x ∈ name, inName x = true)
    (stops : ∀ x ∈ rest.head?, inName x = false) :
    (name ++ rest).takeWhile inName = name ∧ (name ++ rest).dropWhile inName = rest := by
  rw [List.takeWhile_append_of_pos inside, List.dropWhile_append_of_pos inside]
  cases rest with
  | nil => simp
  | cons x rest => simp [stops x rfl]

theorem followPath_member (a : Argument) (r : List Char) :
    followPath a ('.' :: r) = (a.member (r.takeWhile inName)).bind fun b =>
      followPath b (r.dropWhile inName) := by
  rw [followPath]
  rfl

theorem followPath_item {a : Argument} {name rest : List Char} (inside : ']' ∉ name) :
    followPath a ('[' :: (name ++ ']' :: rest)) =
      (a.item name).bind fun b => followPath b rest := by
  have hname : ∀ x ∈ name, (x != ']') = true := by
    intro x hx
    rw [bne_iff_ne]
    exact fun h => inside (h ▸ hx)
  have hdrop : (name ++ ']' :: rest).dropWhile (· != ']') = ']' :: rest := by
    rw [List.dropWhile_append_of_pos hname]
    rfl
  have htake : (name ++ ']' :: rest).takeWhile (· != ']') = name := by
    rw [List.takeWhile_append_of_pos hname]
    simp
  rw [followPath]
  split
  · rename_i h
    rw [hdrop] at h
    cases h
  · rename_i h
    rw [hdrop] at h
    obtain ⟨-, rfl⟩ := List.cons.inj h
    rw [htake]

theorem followPath_of_reaches {path : List Char} (h : Reaches a path b) :
    followPath a path = .ok b := by
  induction h with
  | here a => rw [followPath]
  | member inside stops found _ ih =>
    obtain ⟨htake, hdrop⟩ := takeWhile_inName inside stops
    rw [followPath_member, htake, hdrop, member_eq_ok.2 found]
    exact ih
  | item inside position found _ ih =>
    rw [followPath_item inside, item_eq_ok.2 ⟨_, _, _, rfl, position, found, rfl⟩]
    exact ih

theorem mem_takeWhile {p : Char → Bool} {l : List Char} {x : Char} (h : x ∈ l.takeWhile p) :
    p x = true :=
  List.all_eq_true.1 List.all_takeWhile x h

theorem head_dropWhile {p : Char → Bool} {l : List Char} {x : Char}
    (h : x ∈ (l.dropWhile p).head?) : p x = false := by
  have hstop := List.head?_dropWhile_not p l
  rw [Option.mem_def.1 h] at hstop
  exact hstop

theorem reaches_of_followPath {path : List Char} (h : followPath a path = .ok b) :
    Reaches a path b := by
  -- the end of the path, a member, a bracket that is never closed, an item, no step at all
  fun_induction followPath a path with
  | case1 a =>
    obtain rfl := Except.ok.inj h
    exact .here a
  | case2 a r name rest ih =>
    cases hmember : a.member name with
    | error cause =>
      rw [hmember] at h
      cases h
    | ok c =>
      rw [hmember] at h
      have hr : r = name ++ rest := (List.takeWhile_append_dropWhile).symm
      rw [hr]
      exact .member (fun x hx => mem_takeWhile hx) (fun x hx => head_dropWhile hx)
        (member_eq_ok.1 hmember) (ih c h)
  | case3 => cases h
  | case4 a r x rest hdrop ih =>
    cases hitem : a.item (r.takeWhile (· != ']')) with
    | error cause =>
      rw [hitem] at h
      cases h
    | ok c =>
      rw [hitem] at h
      obtain ⟨s, i, y, rfl, position, found, rfl⟩ := item_eq_ok.1 hitem
      have hx : x = ']' := by
        have hhead : x ∈ (r.dropWhile (· != ']')).head? := by
          rw [hdrop]
          rfl
        simpa using head_dropWhile hhead
      subst hx
      have hr : r = r.takeWhile (· != ']') ++ ']' :: rest := by
        rw [← hdrop, List.takeWhile_append_dropWhile]
      rw [hr]
      refine .item (fun hmem => ?_) position found (ih _ h)
      simpa using mem_takeWhile hmem
  | case5 => cases h

theorem followPath_eq_ok {path : List Char} : followPath a path = .ok b ↔ Reaches a path b :=
  ⟨reaches_of_followPath, followPath_of_reaches⟩

/-! ## 2. Layouts -/

/-- Whether a value can be written as it is: only a number may be too long. -/
def Argument.isWritable : Argument → Bool
  | .number n => Number.isWritable n
  | _ => true

theorem chars_ok : (∃ t, a.chars = .ok t) ↔ a.isWritable = true := by
  cases a with
  | number n =>
    rw [Argument.chars, Argument.isWritable, Number.written]
    split
    · rename_i h
      exact ⟨fun _ => h, fun _ => ⟨_, rfl⟩⟩
    · rename_i h
      constructor
      · intro h'
        obtain ⟨t, h'⟩ := h'
        cases h'
      · exact fun h' => absurd h' h
  | _ => exact ⟨fun _ => rfl, fun _ => ⟨_, rfl⟩⟩

/-- A text can be set in a layout that was read for texts. -/
structure Layout.AdmitsText (l : Layout) : Prop where
  type : l.type = 's'
  sign : l.sign = none
  unsignedZero : l.unsignedZero = false
  alternate : l.alternate = false
  align : l.align ≠ .afterSign

/-- A number can be set in a layout that was read for numbers: as an integer, which in decimal
must not be too long, as a character, or as a fraction. -/
def Layout.AdmitsNumber (l : Layout) (n : Int) : Prop :=
  l.type ∈ ['b', 'o', 'x', 'X', 'd', 'n'] ∧ l.precision = none ∧ l.unsignedZero = false ∧
    (l.type ∈ ['d', 'n'] → Number.isWritable n = true) ∨
  l.type = 'c' ∧ l.precision = none ∧ l.unsignedZero = false ∧ l.sign = none ∧
    l.alternate = false ∧ 0 ≤ n ∧ n < 0x110000 ∨
  l.type ∈ ['e', 'E', 'f', 'F', 'g', 'G', '%'] ∧ l.precision.getD 6 ≤ Nat.pow 2 31 - 1 ∧
    Number.Binary64.ofInt n ≠ .infinite (n < 0)

/-- A value can be set in a layout; without one it stands as it is written. A kind or a method
has no layouts. -/
inductive Accepts : List Char → Argument → Prop
  | plain {v : Argument} (writable : v.isWritable = true) : Accepts [] v
  | text {layout s : List Char} {l : Layout} (given : layout ≠ [])
      (read : Layout.read .text layout = .ok l) (admits : l.AdmitsText) : Accepts layout (.text s)
  | number {layout : List Char} {n : Int} {l : Layout} (given : layout ≠ [])
      (read : Layout.read .number layout = .ok l) (admits : l.AdmitsNumber n) :
      Accepts layout (.number n)

variable {l : Layout} {n : Int} {s : List Char}

-- A check is passed where what it refuses is not the case.
theorem check_eq_ok {α : Type} {refused : Prop} [Decidable refused] {cause : LayoutError}
    {k : PUnit → Except LayoutError α} {rest : Except LayoutError α} {t : α} :
    (if refused then throw cause >>= k else rest) = .ok t ↔ ¬ refused ∧ rest = .ok t := by
  by_cases h : refused
  · rw [if_pos h]
    exact ⟨nofun, fun hrest => absurd h hrest.1⟩
  · rw [if_neg h]
    exact ⟨fun hrest => ⟨h, hrest⟩, fun hrest => hrest.2⟩

theorem setText_ok : (∃ t, l.setText s = .ok t) ↔ l.AdmitsText := by
  unfold Layout.setText
  cases hsign : l.sign with
  | some rule =>
    simp only [check_eq_ok]
    constructor
    · intro h
      obtain ⟨t, -, h⟩ := h
      cases h
    · intro h
      cases hsign.symm.trans h.sign
  | none =>
    simp only [check_eq_ok, Decidable.not_not, Bool.not_eq_true]
    constructor
    · intro h
      obtain ⟨t, htype, hzero, halternate, halign, -⟩ := h
      exact ⟨htype, hsign, hzero, halternate, halign⟩
    · intro h
      exact ⟨_, h.type, h.unsignedZero, h.alternate, h.align, rfl⟩

theorem setInBase_ok {base : Nat} {mark : List Char} :
    (∃ t, l.setInBase base mark n = .ok t) ↔ l.precision = none ∧ l.unsignedZero = false ∧
      (base = 10 → Number.isWritable n = true) := by
  unfold Layout.setInBase
  simp only [check_eq_ok, Bool.not_eq_true, Option.isSome_eq_false_iff, Option.isNone_iff_eq_none,
    not_and, Bool.not_eq_false]
  constructor
  · intro h
    obtain ⟨t, hprecision, hzero, hdecimal, -⟩ := h
    exact ⟨hprecision, hzero, hdecimal⟩
  · intro h
    exact ⟨_, h.1, h.2.1, h.2.2, rfl⟩

theorem setCharacter_ok :
    (∃ t, l.setCharacter n = .ok t) ↔ l.precision = none ∧ l.unsignedZero = false ∧
      l.sign = none ∧ l.alternate = false ∧ 0 ≤ n ∧ n < 0x110000 := by
  have hword : Nat.pow 2 63 = 0x8000000000000000 := rfl
  unfold Layout.setCharacter
  simp only [check_eq_ok, Bool.not_eq_true, Option.isSome_eq_false_iff, Option.isNone_iff_eq_none]
  constructor
  · intro h
    obtain ⟨t, hprecision, hzero, hsign, halternate, -, hrange, -⟩ := h
    exact ⟨hprecision, hzero, hsign, halternate, by omega, by omega⟩
  · intro h
    obtain ⟨hprecision, hzero, hsign, halternate, hlow, hhigh⟩ := h
    exact ⟨_, hprecision, hzero, hsign, halternate, by omega, by omega, rfl⟩

theorem setFraction_ok :
    (∃ t, l.setFraction n = .ok t) ↔ l.precision.getD 6 ≤ Nat.pow 2 31 - 1 ∧
      Number.Binary64.ofInt n ≠ .infinite (n < 0) := by
  unfold Layout.setFraction
  simp only [check_eq_ok]
  constructor
  · intro h
    obtain ⟨t, hprecision, hfinite, -⟩ := h
    exact ⟨by omega, hfinite⟩
  · intro h
    obtain ⟨hprecision, hfinite⟩ := h
    -- what the number becomes does not matter: each kind of it has a text
    cases hshown : if l.type = '%' then (Number.Binary64.ofInt n).scale 100 else .ofInt n with
    | finite _ m e => exact ⟨_, by omega, hfinite, rfl⟩
    | infinite _ => exact ⟨_, by omega, hfinite, rfl⟩
    | nan => exact ⟨_, by omega, hfinite, rfl⟩

theorem baseOf_isSome {type : Char} :
    (baseOf? type).isSome = true ↔ type ∈ ['b', 'o', 'x', 'X', 'd', 'n'] := by
  unfold baseOf?
  split <;> simp_all

theorem base_eq_ten {type : Char} {base : Nat} {mark : List Char}
    (h : baseOf? type = some (base, mark)) : base = 10 ↔ type ∈ ['d', 'n'] := by
  unfold baseOf? at h
  split at h <;> simp_all <;> omega

theorem setInteger_ok : (∃ t, l.setInteger n = .ok t) ↔ l.AdmitsNumber n := by
  unfold Layout.setInteger Layout.AdmitsNumber
  -- the types of integers, characters and fractions exclude each other
  by_cases hbase : l.type ∈ ['b', 'o', 'x', 'X', 'd', 'n']
  · have hchar : l.type ≠ 'c' := by
      intro h
      rw [h] at hbase
      revert hbase
      decide
    have hfraction : l.type ∉ ['e', 'E', 'f', 'F', 'g', 'G', '%'] := by
      intro h
      simp only [List.mem_cons, List.not_mem_nil, or_false] at hbase h
      rcases hbase with h' | h' | h' | h' | h' | h' <;> rw [h'] at h <;> revert h <;> decide
    obtain ⟨⟨base, mark⟩, hsome⟩ := Option.isSome_iff_exists.1 (baseOf_isSome.2 hbase)
    rw [hsome]
    simp only [setInBase_ok, base_eq_ten hsome, hbase, hchar, hfraction, true_and, false_and,
      or_false]
  · have hnone : baseOf? l.type = none := by
      rw [← Option.not_isSome_iff_eq_none]
      exact fun h => hbase (baseOf_isSome.1 h)
    rw [hnone]
    simp only [hbase, false_and, false_or]
    by_cases hchar : l.type = 'c'
    · have hfraction : 'c' ∉ ['e', 'E', 'f', 'F', 'g', 'G', '%'] := by decide
      rw [if_pos hchar, setCharacter_ok]
      simp only [hchar, hfraction, true_and, false_and, or_false]
    · rw [if_neg hchar]
      by_cases hfraction : l.type ∈ ['e', 'E', 'f', 'F', 'g', 'G', '%']
      · rw [if_pos hfraction, setFraction_ok]
        simp only [hchar, hfraction, true_and, false_and, false_or]
      · rw [if_neg hfraction]
        simp only [hchar, hfraction, false_and, or_false, iff_false]
        intro h
        obtain ⟨t, h⟩ := h
        cases h

theorem setIn_nil (a : Argument) : a.setIn [] = a.chars.mapError .unwritable := by
  unfold Argument.setIn
  rfl

theorem setIn_nil_ok : (∃ t, a.setIn [] = .ok t) ↔ a.isWritable = true := by
  rw [setIn_nil, mapError_ok, chars_ok]

theorem setIn_text {layout : List Char} (given : layout ≠ []) (s : List Char) :
    (Argument.text s).setIn layout = Layout.read .text layout >>= fun l => l.setText s := by
  unfold Argument.setIn
  rw [if_neg (by simpa using given)]
  rfl

theorem setIn_number {layout : List Char} (given : layout ≠ []) (n : Int) :
    (Argument.number n).setIn layout =
      Layout.read .number layout >>= fun l => l.setInteger n := by
  unfold Argument.setIn
  rw [if_neg (by simpa using given)]
  rfl

theorem setIn_thing {layout : List Char} (given : layout ≠ []) (t : Thing) :
    (Argument.thing t).setIn layout = .error (.unsuited t.typeName) := by
  unfold Argument.setIn
  rw [if_neg (by simpa using given)]

theorem setIn_ok {layout : List Char} : (∃ t, a.setIn layout = .ok t) ↔ Accepts layout a := by
  by_cases hlayout : layout = []
  · subst hlayout
    rw [setIn_nil_ok]
    constructor
    · exact .plain
    · intro h
      cases h with
      | plain writable => exact writable
      | text given => exact absurd rfl given
      | number given => exact absurd rfl given
  · cases a with
    | text s =>
      simp only [setIn_text hlayout, bind_ok, setText_ok]
      constructor
      · intro h
        obtain ⟨l, read, admits⟩ := h
        exact .text hlayout read admits
      · intro h
        cases h with
        | plain => exact absurd rfl hlayout
        | text _ read admits => exact ⟨_, read, admits⟩
    | number n =>
      simp only [setIn_number hlayout, bind_ok, setInteger_ok]
      constructor
      · intro h
        obtain ⟨l, read, admits⟩ := h
        exact .number hlayout read admits
      · intro h
        cases h with
        | plain => exact absurd rfl hlayout
        | number _ read admits => exact ⟨_, read, admits⟩
    | thing t =>
      rw [setIn_thing hlayout]
      constructor
      · intro h
        obtain ⟨s, h⟩ := h
        cases h
      · intro h
        cases h
        exact absurd rfl hlayout

/-! ## 3. Fields -/

/-- What a field makes of the value at the end of its path. A converted value is a text, and any
text stands in the layout if one does. -/
def Field.Sets (f : Field) (value : Argument) (layout : List Char) : Prop :=
  match f.conversion with
  | none => Accepts layout value
  | some c => c ∈ ['r', 's', 'a'] ∧ value.isWritable = true ∧ ∃ s, Accepts layout (.text s)

/-- The layout of a field as it is read: a template of its own where it holds fields. -/
def Field.Reads (f : Field) (nested : List Char → Except RenderError (List Char))
    (layout : List Char) : Prop :=
  if '{' ∈ f.layout then nested f.layout = .ok layout else layout = f.layout

variable {f : Field} {nested : List Char → Except RenderError (List Char)} {args : Arguments}

-- Which text a conversion makes does not matter to a layout.
theorem Accepts.other_text {layout s t : List Char} (h : Accepts layout (.text s)) :
    Accepts layout (.text t) := by
  cases h with
  | plain => exact .plain rfl
  | text given read admits => exact .text given read admits

theorem convert_eq_ok {c : Char} {v : Argument} (h : a.convert c = .ok v) :
    c ∈ ['r', 's', 'a'] ∧ a.isWritable = true ∧ ∃ s, v = .text s := by
  -- a value that is no text is written first
  have plain (h : ((a.chars.map Argument.text).mapError fun cause =>
      RenderError.layout (.unwritable cause)) = .ok v) :
      a.isWritable = true ∧ ∃ s, v = .text s := by
    cases hchars : a.chars with
    | error cause =>
      rw [hchars] at h
      cases h
    | ok s =>
      rw [hchars] at h
      exact ⟨chars_ok.1 ⟨s, hchars⟩, s, (Except.ok.inj h).symm⟩
  unfold Argument.convert at h
  split at h
  · exact ⟨by decide, rfl, _, (Except.ok.inj h).symm⟩
  · exact ⟨by decide, rfl, _, (Except.ok.inj h).symm⟩
  · exact ⟨by decide, plain h⟩
  · exact ⟨by decide, plain h⟩
  · exact ⟨by decide, plain h⟩
  · cases h

-- A text is quoted, and all else is written.
theorem convert_cases (a : Argument) {c : Char} (hc : c ∈ ['r', 's', 'a']) :
    (∃ s, a.convert c = .ok (.text s)) ∨
      a.convert c = (a.chars.map Argument.text).mapError fun cause =>
        RenderError.layout (.unwritable cause) := by
  simp only [List.mem_cons, List.not_mem_nil, or_false] at hc
  rcases hc with rfl | rfl | rfl <;> cases a
  case inl.text | inr.inr.text => exact Or.inl ⟨_, rfl⟩
  all_goals exact Or.inr rfl

theorem convert_ok {c : Char} (hc : c ∈ ['r', 's', 'a']) (writable : a.isWritable = true) :
    ∃ s, a.convert c = .ok (.text s) := by
  rcases convert_cases a hc with h | h
  · exact h
  · obtain ⟨s, hs⟩ := chars_ok.2 writable
    rw [h, hs]
    exact ⟨s, rfl⟩

-- The last step of a field, with the value that its conversion made.
theorem laid_ok {v : Argument} :
    (∃ t, (if '{' ∈ f.layout then
        nested f.layout >>= fun layout => (v.setIn layout).mapError RenderError.layout
      else (v.setIn f.layout).mapError RenderError.layout) = .ok t) ↔
    ∃ layout, f.Reads nested layout ∧ Accepts layout v := by
  unfold Field.Reads
  by_cases hfields : '{' ∈ f.layout
  · simp only [if_pos hfields, bind_ok, mapError_ok, setIn_ok]
  · simp only [if_neg hfields, mapError_ok, setIn_ok, exists_eq_left]

theorem render_ok : (∃ t, f.render nested args = .ok t) ↔
    ∃ a, f.value args = .ok a ∧ ∃ layout, f.Reads nested layout ∧ f.Sets a layout := by
  unfold Field.render Field.Sets
  cases hconversion : f.conversion with
  | none => simp only [pure_bind, bind_ok, laid_ok]
  | some c =>
    simp only [pure_bind, bind_ok, laid_ok]
    -- a conversion leads to a text, and all texts stand in the same layouts
    apply exists_congr
    intro a
    apply and_congr_right
    intro _
    constructor
    · intro h
      obtain ⟨v, hv, layout, hreads, haccepts⟩ := h
      obtain ⟨hc, writable, s, rfl⟩ := convert_eq_ok hv
      exact ⟨layout, hreads, hc, writable, s, haccepts⟩
    · intro h
      obtain ⟨layout, hreads, hc, writable, s, haccepts⟩ := h
      obtain ⟨t, ht⟩ := convert_ok hc writable
      exact ⟨_, ht, layout, hreads, haccepts.other_text⟩

/-! ## 4. Templates -/

-- The pieces of a text are set up to its end exactly where it is a template throughout and each
-- of its fields is set.
theorem renderPieces_ok {ps : List (Except Malformed Piece)} :
    (∃ t, renderPieces nested args ps = .ok t) ↔ ∀ p ∈ ps, ∃ piece, p = .ok piece ∧
      ∀ f, piece = .field f → ∃ t, f.render nested args = .ok t := by
  induction ps with
  | nil => exact ⟨fun _ _ h => absurd h List.not_mem_nil, fun _ => ⟨[], rfl⟩⟩
  | cons p rest ih =>
    rw [List.forall_mem_cons, ← ih]
    rcases p with cause | c | f
    · constructor
      · intro h
        obtain ⟨t, h⟩ := h
        cases h
      · intro h
        obtain ⟨⟨piece, h, -⟩, -⟩ := h
        cases h
    · have hmap : (∃ t, renderPieces nested args (.ok (.literal c) :: rest) = .ok t) ↔
          ∃ t, renderPieces nested args rest = .ok t := by
        rw [renderPieces]
        cases renderPieces nested args rest <;> simp [Except.map]
      rw [hmap]
      exact ⟨fun h => ⟨⟨_, rfl, fun _ hf => (by cases hf)⟩, h⟩, fun h => h.2⟩
    · have hbind : (∃ t, renderPieces nested args (.ok (.field f) :: rest) = .ok t) ↔
          (∃ s, f.render nested args = .ok s) ∧ ∃ t, renderPieces nested args rest = .ok t := by
        rw [renderPieces]
        simp only [bind_ok]
        constructor
        · intro h
          obtain ⟨s, hs, t, ht, -⟩ := h
          exact ⟨⟨s, hs⟩, t, ht⟩
        · intro h
          obtain ⟨⟨s, hs⟩, t, ht⟩ := h
          exact ⟨s, hs, t, ht, _, rfl⟩
      rw [hbind]
      constructor
      · intro h
        refine ⟨⟨_, rfl, fun g hg => ?_⟩, h.2⟩
        obtain rfl := Piece.field.inj hg
        exact h.1
      · intro h
        obtain ⟨⟨piece, hpiece, hf⟩, hrest⟩ := h
        obtain rfl := Except.ok.inj hpiece
        exact ⟨hf f rfl, hrest⟩

-- The first piece that fails is a fault of the text, or a field that is not set.
theorem renderPieces_eq_error {ps : List (Except Malformed Piece)} {cause : RenderError}
    (h : renderPieces nested args ps = .error cause) :
    (∃ fault, .error fault ∈ ps) ∨
      ∃ f, .ok (.field f) ∈ ps ∧ f.render nested args = .error cause := by
  induction ps with
  | nil => cases h
  | cons p rest ih =>
    have later (h : renderPieces nested args rest = .error cause) :
        (∃ fault, .error fault ∈ p :: rest) ∨
          ∃ f, .ok (.field f) ∈ p :: rest ∧ f.render nested args = .error cause := by
      rcases ih h with ⟨fault, hfault⟩ | ⟨f, hf, hrender⟩
      · exact Or.inl ⟨fault, List.mem_cons_of_mem _ hfault⟩
      · exact Or.inr ⟨f, List.mem_cons_of_mem _ hf, hrender⟩
    rcases p with fault | c | f
    · exact Or.inl ⟨fault, List.mem_cons_self⟩
    · cases hrest : renderPieces nested args rest with
      | ok t =>
        rw [renderPieces, hrest] at h
        cases h
      | error cause' =>
        rw [renderPieces, hrest] at h
        exact later (hrest.trans (congrArg Except.error (Except.error.inj h)))
    · cases hf : f.render nested args with
      | error cause' =>
        rw [renderPieces, hf] at h
        exact Or.inr ⟨f, List.mem_cons_self, hf.trans h⟩
      | ok s =>
        cases hrest : renderPieces nested args rest with
        | ok t =>
          rw [renderPieces, hf, hrest] at h
          cases h
        | error cause' =>
          rw [renderPieces, hf, hrest] at h
          exact later (hrest.trans h)

/-- The fields of a text up to its end or its first fault. -/
def fields (template : List Char) : List Field :=
  (scan template).filterMap fun
    | .ok (.field f) => some f
    | _ => none

theorem mem_fields {template : List Char} :
    f ∈ fields template ↔ .ok (.field f) ∈ scan template := by
  unfold fields
  rw [List.mem_filterMap]
  constructor
  · intro h
    obtain ⟨p, hp, hf⟩ := h
    rcases p with cause | c | g
    · cases hf
    · cases hf
    · obtain rfl := Option.some.inj hf
      exact hp
  · intro h
    exact ⟨_, h, rfl⟩

theorem value_eq_ok : f.value args = .ok b ↔ position? f.root = .ok none ∧ f.root ≠ [] ∧
    ∃ a, args.find f.root = some a ∧ Reaches a f.steps b := by
  unfold Field.value
  cases hposition : position? f.root with
  | error cause => simp [bind, Except.bind]
  | ok index =>
    cases index with
    | some i => simp [bind, Except.bind, throw, throwThe, MonadExceptOf.throw]
    | none =>
      by_cases hroot : f.root = []
      · simp [bind, Except.bind, hroot, throw, throwThe, MonadExceptOf.throw]
      · cases hfind : args.find f.root with
        | none => simp [bind, Except.bind, hroot, throw, throwThe, MonadExceptOf.throw]
        | some a => simp [bind, Except.bind, hroot, followPath_eq_ok]

/-- A template can be filled in exactly where it has no fault and its fields are set. -/
theorem renderWithin_ok {depth : Nat} {template : List Char} :
    (∃ t, renderWithin args (depth + 1) template = .ok t) ↔
      (∀ p ∈ scan template, ∃ piece, p = .ok piece) ∧ ∀ f ∈ fields template,
        ∃ b, f.value args = .ok b ∧
          ∃ layout, f.Reads (renderWithin args depth) layout ∧ f.Sets b layout := by
  rw [renderWithin, renderPieces_ok]
  simp only [render_ok]
  constructor
  · intro h
    refine ⟨fun p hp => ?_, fun f hf => ?_⟩
    · obtain ⟨piece, hpiece, -⟩ := h p hp
      exact ⟨piece, hpiece⟩
    · obtain ⟨piece, hpiece, hset⟩ := h _ (mem_fields.1 hf)
      exact hset f (Except.ok.inj hpiece).symm
  · intro h p hp
    obtain ⟨piece, rfl⟩ := h.1 p hp
    refine ⟨piece, rfl, fun f hf => h.2 f (mem_fields.2 ?_)⟩
    rw [← hf]
    exact hp

/-- A field fits the argument that it starts from. -/
def Field.Fits (f : Field) (args : Arguments) (a : Argument) : Prop :=
  ∃ b, Reaches a f.steps b ∧ ∃ layout, f.Reads (renderWithin args 1) layout ∧ f.Sets b layout

/-- A field that is the name of an argument and at most a conversion. -/
def Field.Bare (f : Field) : Prop :=
  f.steps = [] ∧ f.layout = [] ∧ ∀ c ∈ f.conversion, c ∈ ['r', 's', 'a']

-- only a conversion that is there is looked at, not every character
instance (f : Field) : Decidable f.Bare :=
  letI := f.conversion.decidableForallMem (p := (· ∈ ['r', 's', 'a']))
  inferInstanceAs (Decidable (_ ∧ _ ∧ _))

theorem Field.Bare.fits (h : f.Bare) (writable : a.isWritable = true) : f.Fits args a := by
  obtain ⟨hsteps, hlayout, hconversion⟩ := h
  refine ⟨a, ?_, [], ?_, ?_⟩
  · rw [hsteps]
    exact .here a
  · rw [Field.Reads, hlayout, if_neg List.not_mem_nil]
  · unfold Field.Sets
    cases hc : f.conversion with
    | none => exact .plain writable
    | some c => exact ⟨hconversion c hc, writable, [], .plain rfl⟩

/-- The failure of a number that is too long to be written. -/
def RenderError.tooLong : RenderError := .layout (.unwritable {})

theorem chars_eq_error {cause : Number.TooManyDigits} (h : a.chars = .error cause) :
    a.isWritable = false := by
  rw [Bool.eq_false_iff]
  intro writable
  obtain ⟨t, ht⟩ := chars_ok.2 writable
  rw [h] at ht
  cases ht

theorem convert_eq_error {c : Char} (hc : c ∈ ['r', 's', 'a']) {cause : RenderError}
    (h : a.convert c = .error cause) : a.isWritable = false ∧ cause = .tooLong := by
  rcases convert_cases a hc with hquoted | hplain
  · obtain ⟨s, hs⟩ := hquoted
    rw [hs] at h
    cases h
  · rw [hplain] at h
    cases hchars : a.chars with
    | ok s =>
      rw [hchars] at h
      cases h
    | error _ =>
      rw [hchars] at h
      exact ⟨chars_eq_error hchars, (Except.error.inj h).symm⟩

theorem render_unlaid (hlayout : f.layout = []) : f.render nested args =
    f.value args >>= fun a => (match f.conversion with
      | some c => a.convert c
      | none => pure a) >>= fun v => (v.setIn []).mapError .layout := by
  unfold Field.render
  rw [hlayout]
  cases f.conversion <;> rfl

-- Only a number that is too long keeps a bare field from being set.
theorem Field.Bare.render_eq_error (h : f.Bare) (hvalue : f.value args = .ok a)
    {cause : RenderError} (hrender : f.render nested args = .error cause) :
    a.isWritable = false ∧ cause = .tooLong := by
  obtain ⟨-, hlayout, hconversion⟩ := h
  have laid {v : Argument} (hlaid : (v.setIn []).mapError RenderError.layout = .error cause) :
      v.isWritable = false ∧ cause = .tooLong := by
    rw [setIn_nil] at hlaid
    cases hchars : v.chars with
    | ok s =>
      rw [hchars] at hlaid
      cases hlaid
    | error _ =>
      rw [hchars] at hlaid
      exact ⟨chars_eq_error hchars, (Except.error.inj hlaid).symm⟩
  rw [render_unlaid hlayout, hvalue] at hrender
  cases hc : f.conversion with
  | none =>
    rw [hc] at hrender
    exact laid hrender
  | some c =>
    rw [hc] at hrender
    cases hconverted : a.convert c with
    | error cause' =>
      obtain rfl : cause' = cause := by
        change a.convert c >>= _ = _ at hrender
        rw [hconverted] at hrender
        exact Except.error.inj hrender
      exact convert_eq_error (hconversion c hc) hconverted
    | ok v =>
      obtain ⟨-, -, s, rfl⟩ := convert_eq_ok hconverted
      change a.convert c >>= _ = _ at hrender
      rw [hconverted] at hrender
      have htext : (Argument.text s).isWritable = false := (laid (v := .text s) hrender).1
      cases htext

end TelephonyAlerts.Template
