import TelephonyAlerts.Data.Assoc

/-!
# Visibility of an indicator

For every line that was ever updated, whether its indicator is to be seen.
-/

namespace TelephonyAlerts

open TelephonyAlerts.Data

/-- Whether the indicator of each line is to be seen, in the order of first updates. -/
abbrev Visibility := Assoc Int Bool

namespace Visibility

/-- Whether a line's indicator is to be seen; not before its first update. -/
def shows (v : Visibility) (line : Int) : Bool := (v.get? line).getD false

/-- A line that is named, or the only line there is where none is named. -/
def meant (v : Visibility) (noLine line : Int) : Int :=
  match v with
  | [(only, _)] => if line = noLine then only else line
  | _ => line

theorem shows_insert (v : Visibility) (line other : Int) (b : Bool) :
    shows (v.insert line b) other = if line = other then b else v.shows other := by
  unfold shows
  rw [Assoc.get?_insert]
  split <;> rfl

end Visibility

end TelephonyAlerts
