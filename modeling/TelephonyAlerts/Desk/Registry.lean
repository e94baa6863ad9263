import TelephonyAlerts.Desk.Request

/-!
# The registry

The host has one desk at a time. Asking for another while there is one is a mistake of
the host: it gets the one there is and the mistake is logged. A desk that was given up
still answers whoever holds it.
-/

namespace TelephonyAlerts

/-- All desks that were made, oldest first, and the one that is in office. -/
structure Registry where
  desks : List Desk := []
  current : Option Nat := none
  deriving DecidableEq, Repr

namespace Registry

/-- The log row about a second desk; `designation` tells which desk is in office. -/
def secondDesk (designation : String) : String :=
  s!"init_coordinator() called multiple times! instance={designation}"

/-- The number of the desk in office: a new one where there is none. -/
def obtain (designation : String) (s : Settings) : Op Registry Nat := do
  let r ← Op.own
  match r.current with
  | some k =>
    -- The settings of a desk that is not made are not looked at.
    Op.log .critical .desk (secondDesk designation)
    return k
  | none =>
    let desk ← Op.ofExcept .ofWording (Desk.ofSettings s)
    let k := r.desks.length
    Op.modifyOwn fun r => ⟨r.desks ++ [desk], some k⟩
    return k

def release : Op Registry Unit := Op.modifyOwn fun r => { r with current := none }

/-- An operation on one of the desks; nothing where there is no such desk. -/
def on {α : Type} (k : Nat) (op : Op Desk α) : Op Registry (Option α) := fun (r, e) =>
  match r.desks[k]? with
  | none => (.ok none, r, e)
  | some d =>
    let (result, d, e) := op (d, e)
    (result.map some, { r with desks := r.desks.set k d }, e)

end Registry

end TelephonyAlerts
