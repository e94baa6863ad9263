import TelephonyAlerts.Blocked.Mask

/-!
# What was blocked

The calls and messages that were blocked since each list was last cleared, newest first.
-/

namespace TelephonyAlerts

/-- How a call or message matched a rule. -/
inductive MatchKind
  | list
  | regex
  | hidden
  | unknown
  deriving DecidableEq, Repr

namespace MatchKind

def name : MatchKind → String
  | list => "LIST"
  | regex => "REGEX"
  | hidden => "PRIVATE"
  | unknown => "UNKNOWN"

def text : MatchKind → String
  | list => "list"
  | regex => "regex"
  | hidden => "private"
  | unknown => "unknown"

instance : Data.Vocabulary MatchKind where
  label := "MatchType"
  members := [list, regex, hidden, unknown]
  name := name
  value k := .text k.text

end MatchKind

/-- A blocked call or message. The number of a hidden caller is empty. -/
structure BlockedEvent where
  number : String
  time : Calendar.Moment
  matched : MatchKind
  deriving DecidableEq, Repr

/-- Whether one number can be unblocked for all events, newest first: each matched a
list entry, and for the number of the newest. -/
def canUnblock : List BlockedEvent → Bool
  | [] => false
  | newest :: older =>
    (newest :: older).all fun e => e.number == newest.number && e.matched = .list

structure History where
  calls : List BlockedEvent := []
  messages : List BlockedEvent := []
  deriving DecidableEq, Repr

namespace History

/-- The events of a medium, newest first. -/
def events (h : History) : Medium → List BlockedEvent
  | .call => h.calls
  | .message => h.messages

def setEvents (h : History) (m : Medium) (es : List BlockedEvent) : History :=
  match m with
  | .call => { h with calls := es }
  | .message => { h with messages := es }

def push (h : History) (m : Medium) (e : BlockedEvent) : History :=
  h.setEvents m (e :: h.events m)

def clear (h : History) (m : Medium) : History := h.setEvents m []

@[simp] theorem events_push (h : History) (m m' : Medium) (e : BlockedEvent) :
    (h.push m e).events m' = if m = m' then e :: h.events m' else h.events m' := by
  cases m <;> cases m' <;> rfl

@[simp] theorem events_clear (h : History) (m m' : Medium) :
    (h.clear m).events m' = if m = m' then [] else h.events m' := by
  cases m <;> cases m' <;> rfl

end History

end TelephonyAlerts
