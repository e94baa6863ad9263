/-!
# Association lists in order of insertion

Values by key, each key at most once when built by `insert`. A new key goes to the
end, a known one keeps its place and takes the new value.
-/

namespace TelephonyAlerts.Data

/-- Values by key, in the order in which the keys first came. -/
abbrev Assoc (κ ν : Type) := List (κ × ν)

namespace Assoc

variable {κ ν : Type} [DecidableEq κ]

def get? : Assoc κ ν → κ → Option ν
  | [], _ => none
  | (k', v) :: rest, k => if k' = k then some v else get? rest k

def insert : Assoc κ ν → κ → ν → Assoc κ ν
  | [], k, v => [(k, v)]
  | (k', v') :: rest, k, v => if k' = k then (k', v) :: rest else (k', v') :: insert rest k v

def erase : Assoc κ ν → κ → Assoc κ ν
  | [], _ => []
  | (k', v') :: rest, k => if k' = k then erase rest k else (k', v') :: erase rest k

/-- The list that arises when pairs are inserted in their order. -/
def ofPairs (pairs : List (κ × ν)) : Assoc κ ν :=
  pairs.foldl (fun acc p => insert acc p.1 p.2) []

def keys (m : Assoc κ ν) : List κ := m.map (·.1)

theorem get?_insert (m : Assoc κ ν) (k k' : κ) (v : ν) :
    get? (insert m k v) k' = if k = k' then some v else get? m k' := by
  induction m with
  | nil => simp [insert, get?]
  | cons e m ih =>
    obtain ⟨a, b⟩ := e
    by_cases h : a = k
    · subst h
      by_cases h' : a = k' <;> simp [insert, get?, h']
    · by_cases h' : a = k'
      · subst h'
        simp [insert, get?, h, Ne.symm h]
      · simp [insert, get?, h, h', ih]

theorem get?_erase (m : Assoc κ ν) (k k' : κ) :
    get? (erase m k) k' = if k = k' then none else get? m k' := by
  induction m with
  | nil => simp [erase, get?]
  | cons e m ih =>
    obtain ⟨a, b⟩ := e
    by_cases h : a = k
    · subst h
      simp only [erase, if_true, ih, get?]
      split <;> simp_all
    · by_cases h' : a = k'
      · subst h'
        simp [erase, get?, h, Ne.symm h]
      · simp [erase, get?, h, h', ih]

/-- An insertion adds its key, at the end, only if the key is new. -/
theorem keys_insert (m : Assoc κ ν) (k : κ) (v : ν) :
    keys (insert m k v) = if k ∈ keys m then keys m else keys m ++ [k] := by
  induction m with
  | nil => simp [insert, keys]
  | cons e m ih =>
    obtain ⟨a, b⟩ := e
    by_cases h : a = k
    · subst h
      simp [insert, keys]
    · simp only [keys] at ih
      by_cases hk : k ∈ m.map (·.1) <;> simp [insert, keys, h, Ne.symm h, hk, ih]

end Assoc

end TelephonyAlerts.Data
