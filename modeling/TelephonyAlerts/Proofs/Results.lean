/-!
# Values or failures

A computation that can fail has a value only if each of its steps has one.  Checks one after the
other pass if each does, and else fail as the first that does not pass.
-/

namespace TelephonyAlerts

variable {ε ε' α β : Type}

/-! ## 1. Steps -/

theorem ok_bind (a : α) (k : α → Except ε β) : (Except.ok a >>= k) = k a := rfl

theorem bind_eq_ok {x : Except ε α} {k : α → Except ε β} {b : β} (h : x >>= k = .ok b) :
    ∃ a, x = .ok a ∧ k a = .ok b := by
  cases x with
  | error cause => cases h
  | ok a => exact ⟨a, rfl, h⟩

theorem bind_ok {x : Except ε α} {k : α → Except ε β} :
    (∃ b, x >>= k = .ok b) ↔ ∃ a, x = .ok a ∧ ∃ b, k a = .ok b := by
  constructor
  · intro h
    obtain ⟨b, h⟩ := h
    obtain ⟨a, hx, hk⟩ := bind_eq_ok h
    exact ⟨a, hx, b, hk⟩
  · intro h
    obtain ⟨a, rfl, h⟩ := h
    exact h

theorem map_eq_ok {f : α → β} {x : Except ε α} {b : β} :
    x.map f = .ok b ↔ ∃ a, x = .ok a ∧ f a = b := by
  cases x <;> simp [Except.map]

theorem isOk_map (f : α → β) (x : Except ε α) : (x.map f).isOk = x.isOk := by
  cases x <;> rfl

/-! ## 2. Failures under another cause -/

theorem mapError_of_ok (f : ε → ε') (a : α) : (Except.ok a).mapError f = .ok a := rfl

theorem mapError_bind (f : ε → ε') (x : Except ε α) (k : α → Except ε β) :
    (x >>= k).mapError f = x.mapError f >>= fun a => (k a).mapError f := by
  cases x <;> rfl

theorem mapError_eq_ok {f : ε → ε'} {x : Except ε α} {a : α} :
    x.mapError f = .ok a ↔ x = .ok a := by
  cases x with
  | ok b =>
    show Except.ok b = .ok a ↔ _
    rw [Except.ok.injEq, Except.ok.injEq]
  | error _ => constructor <;> intro h <;> cases h

theorem mapError_ok {f : ε → ε'} {x : Except ε α} :
    (∃ a, x.mapError f = .ok a) ↔ ∃ a, x = .ok a :=
  exists_congr fun _ => mapError_eq_ok

/-! ## 3. Values that are computed -/

theorem toOption_eq_some {x : Except ε α} {a : α} : x.toOption = some a ↔ x = .ok a := by
  cases x <;> simp [Except.toOption]

theorem eq_ok_of_isOk {x : Except ε Unit} (h : x.isOk = true) : x = .ok () := by
  cases x with
  | ok _ => rfl
  | error _ => cases h

/-! ## 4. One after the other -/

theorem mapM_id_eq_ok {l : List (Except ε α)} {xs : List α} (h : l.mapM id = .ok xs) :
    l = xs.map .ok := by
  induction l generalizing xs with
  | nil =>
    obtain rfl : [] = xs := Except.ok.inj h
    rfl
  | cons x rest ih =>
    rw [List.mapM_cons] at h
    obtain ⟨a, hx, htail⟩ := bind_eq_ok h
    obtain ⟨ys, hrest, hcons⟩ := bind_eq_ok htail
    obtain rfl : x = .ok a := hx
    obtain rfl : a :: ys = xs := Except.ok.inj hcons
    rw [ih hrest, List.map_cons]

-- Either all pass, or the first that fails is the one that tells.
theorem forM_cases (check : α → Except ε Unit) (l : List α) :
    (l.forM check = .ok () ∧ ∀ x ∈ l, check x = .ok ()) ∨
      ∃ before x after cause, l = before ++ x :: after ∧ (∀ y ∈ before, check y = .ok ()) ∧
        check x = .error cause ∧ l.forM check = .error cause := by
  induction l with
  | nil => exact Or.inl ⟨rfl, fun x hx => absurd hx List.not_mem_nil⟩
  | cons y rest ih =>
    have hcons : (y :: rest).forM check = check y >>= fun _ => rest.forM check := rfl
    rw [hcons]
    cases hy : check y with
    | error cause =>
      exact Or.inr ⟨[], y, rest, cause, rfl, fun z hz => absurd hz List.not_mem_nil, hy, rfl⟩
    | ok _ =>
      obtain ⟨hrest, hall⟩ | ⟨before, x, after, cause, rfl, hbefore, hx, hrest⟩ := ih
      · exact Or.inl ⟨hrest, List.forall_mem_cons.2 ⟨hy, hall⟩⟩
      · exact Or.inr ⟨y :: before, x, after, cause, rfl, List.forall_mem_cons.2 ⟨hy, hbefore⟩, hx,
          hrest⟩

theorem forM_eq_ok {check : α → Except ε Unit} {l : List α} (h : l.forM check = .ok ()) :
    ∀ x ∈ l, check x = .ok () := by
  obtain ⟨-, hall⟩ | ⟨_, _, _, _, -, -, -, hcause⟩ := forM_cases check l
  · exact hall
  · cases h.symm.trans hcause

end TelephonyAlerts
