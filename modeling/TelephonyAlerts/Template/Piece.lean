/-!
# Pieces of a template

A template is literal text with fields in braces; a brace is written twice to stand
for itself. A field has a path to its value and, after `!` and `:`, a conversion and
a layout, and a layout may hold fields of its own. `scan` reads from left to right
and ends at the first fault, so that what stands before a fault is still known.
-/

namespace TelephonyAlerts.Template

inductive Malformed
  | loneOpen
  | loneClose
  | openInName
  | unclosedField
  | unclosedLayout
  | conversionMissing
  | conversionNotAlone
  deriving DecidableEq, Repr

def Malformed.message : Malformed → String
  | .loneOpen => "Single '\x7b' encountered in format string"
  | .loneClose => "Single '\x7d' encountered in format string"
  | .openInName => "unexpected '\x7b' in field name"
  | .unclosedField => "expected '\x7d' before end of string"
  | .unclosedLayout => "unmatched '\x7b' in format spec"
  | .conversionMissing => "end of string while looking for conversion specifier"
  | .conversionNotAlone => "expected ':' after conversion specifier"

/-- A field: the path to its value, and how the value is turned into text. -/
structure Field where
  path : List Char
  conversion : Option Char := none
  layout : List Char := []
  deriving DecidableEq, Repr

/-- The argument that a path starts from: what stands before its first step. -/
def Field.root (f : Field) : List Char := f.path.takeWhile fun c => c != '.' && c != '['

def Field.steps (f : Field) : List Char := f.path.dropWhile fun c => c != '.' && c != '['

inductive Piece
  | literal (c : Char)
  | field (f : Field)
  deriving DecidableEq, Repr

/-! ## Fields -/

def endsPath (c : Char) : Bool := c == '}' || c == ':' || c == '!'

/-- The path of a field, the character that ends it, and what follows. -/
def takePath (bracketed : Bool) : List Char → Except Malformed (List Char × Char × List Char)
  | [] => .error .unclosedField
  | c :: r =>
    -- Between square brackets every character is part of the path.
    if bracketed then (takePath (c != ']') r).map fun (p, e, rest) => (c :: p, e, rest)
    else if c == '{' then .error .openInName
    else if endsPath c then .ok ([], c, r)
    else (takePath (c == '[') r).map fun (p, e, rest) => (c :: p, e, rest)

/-- The layout of a field, which ends at the brace that closes the field, and what
follows. `depth` counts the braces that are open inside the layout. -/
def takeLayout (depth : Nat) : List Char → Except Malformed (List Char × List Char)
  | [] => .error .unclosedLayout
  | c :: r =>
    if c == '}' then
      match depth with
      | 0 => .ok ([], r)
      | d + 1 => (takeLayout d r).map fun (l, rest) => (c :: l, rest)
    else
      let d := if c == '{' then depth + 1 else depth
      (takeLayout d r).map fun (l, rest) => (c :: l, rest)

/-- The conversion that a character asks for. The character of number zero asks for none. -/
def conversionOf (c : Char) : Option Char := if c = '\x00' then none else some c

def takeField (s : List Char) : Except Malformed (Field × List Char) :=
  (takePath false s).bind fun (path, stop, r) =>
    if stop == '}' then .ok ({ path }, r)
    else if stop == ':' then (takeLayout 0 r).map fun (layout, rest) => ({ path, layout }, rest)
    else
      -- A conversion is one character.
      match r with
      | [] => .error .conversionMissing
      | [_] => .error .unclosedLayout
      | c :: '}' :: rest => .ok ({ path, conversion := conversionOf c }, rest)
      | c :: ':' :: r' =>
        (takeLayout 0 r').map fun (layout, rest) =>
          ({ path, conversion := conversionOf c, layout }, rest)
      | _ :: _ :: _ => .error .conversionNotAlone

theorem takePath_length {b : Bool} {s p r : List Char} {e : Char}
    (h : takePath b s = .ok (p, e, r)) : r.length < s.length := by
  induction s generalizing b p with
  | nil => simp [takePath] at h
  | cons c t ih =>
    have tail : ∀ b', (takePath b' t).map (fun (p, e, rest) => (c :: p, e, rest)) = .ok (p, e, r) →
        r.length < (c :: t).length := by
      intro b' h'
      cases ht : takePath b' t with
      | error x => simp [ht, Except.map] at h'
      | ok v =>
        obtain ⟨p', e', r'⟩ := v
        simp only [ht, Except.map, Except.ok.injEq, Prod.mk.injEq] at h'
        obtain ⟨-, rfl, rfl⟩ := h'
        exact Nat.lt_succ_of_lt (ih ht)
    unfold takePath at h
    split at h
    · exact tail _ h
    · split at h
      · simp at h
      · split at h
        · simp only [Except.ok.injEq, Prod.mk.injEq] at h
          obtain ⟨-, -, rfl⟩ := h
          exact Nat.lt_succ_self _
        · exact tail _ h

theorem takeLayout_length {d : Nat} {s l r : List Char}
    (h : takeLayout d s = .ok (l, r)) : r.length < s.length := by
  induction s generalizing d l with
  | nil => simp [takeLayout] at h
  | cons c t ih =>
    have tail : ∀ d', (takeLayout d' t).map (fun (l, rest) => (c :: l, rest)) = .ok (l, r) →
        r.length < (c :: t).length := by
      intro d' h'
      cases ht : takeLayout d' t with
      | error x => simp [ht, Except.map] at h'
      | ok v =>
        obtain ⟨l', r'⟩ := v
        simp only [ht, Except.map, Except.ok.injEq, Prod.mk.injEq] at h'
        obtain ⟨-, rfl⟩ := h'
        exact Nat.lt_succ_of_lt (ih ht)
    unfold takeLayout at h
    split at h
    · split at h
      · simp only [Except.ok.injEq, Prod.mk.injEq] at h
        obtain ⟨-, rfl⟩ := h
        exact Nat.lt_succ_self _
      · exact tail _ h
    · exact tail _ h

theorem takeField_length {s r : List Char} {f : Field} (h : takeField s = .ok (f, r)) :
    r.length < s.length := by
  unfold takeField at h
  cases hp : takePath false s with
  | error x => simp [hp, Except.bind] at h
  | ok v =>
    obtain ⟨p, e, t⟩ := v
    have ht := takePath_length hp
    have layout : ∀ (g : List Char → Field) (u : List Char), u.length ≤ t.length →
        (takeLayout 0 u).map (fun (l, rest) => (g l, rest)) = .ok (f, r) → r.length < s.length := by
      intro g u hu h'
      cases hl : takeLayout 0 u with
      | error x => simp [hl, Except.map] at h'
      | ok w =>
        obtain ⟨l, r'⟩ := w
        simp only [hl, Except.map, Except.ok.injEq, Prod.mk.injEq] at h'
        obtain ⟨-, rfl⟩ := h'
        have := takeLayout_length hl
        omega
    simp only [hp, Except.bind] at h
    split at h
    · simp only [Except.ok.injEq, Prod.mk.injEq] at h
      obtain ⟨-, rfl⟩ := h
      exact ht
    · split at h
      · exact layout _ t (Nat.le_refl _) h
      · split at h
        · simp at h
        · simp at h
        · simp only [Except.ok.injEq, Prod.mk.injEq] at h
          obtain ⟨-, rfl⟩ := h
          simp only [List.length_cons] at ht
          omega
        · refine layout _ _ ?_ h
          simp only [List.length_cons]
          omega
        · simp at h

/-! ## Scanning -/

/-- The pieces of a text up to its end or its first fault. -/
def scan : List Char → List (Except Malformed Piece)
  | [] => []
  | '{' :: '{' :: r => .ok (.literal '{') :: scan r
  | '}' :: '}' :: r => .ok (.literal '}') :: scan r
  | ['{'] => [.error .loneOpen]
  | '}' :: _ => [.error .loneClose]
  | '{' :: s =>
    match _h : takeField s with
    | .error e => [.error e]
    | .ok (f, r) => .ok (.field f) :: scan r
  | c :: r => .ok (.literal c) :: scan r
termination_by s => s.length
decreasing_by
  all_goals simp only [List.length_cons]
  all_goals first
    | omega
    | exact Nat.lt_succ_of_lt (takeField_length ‹_›)

/-- The pieces of a text that is a template throughout. -/
def pieces (s : List Char) : Except Malformed (List Piece) := (scan s).mapM id

/-- The arguments that the fields of a template start from, in order. Fields inside a
layout are not among them. -/
def roots (ps : List Piece) : List (List Char) :=
  ps.filterMap fun
    | .literal _ => none
    | .field f => some f.root

end TelephonyAlerts.Template
