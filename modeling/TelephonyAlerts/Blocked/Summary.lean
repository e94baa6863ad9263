import TelephonyAlerts.Alert.Payload
import TelephonyAlerts.Blocked.History
import TelephonyAlerts.Wording

/-!
# The alert for what was blocked

One event is told in a sentence; several are counted and told in a line each. A number
can be unblocked from the alert when it is the only one that could be meant.
-/

namespace TelephonyAlerts

open TelephonyAlerts.Template TelephonyAlerts.Calendar

structure Medium.Phrases where
  one : Phrase
  oneHidden : Phrase
  oneUnknown : Phrase
  several : Phrase

def Medium.phrases : Medium → Medium.Phrases
  | .call => ⟨.blacklistCall, .blacklistCallPrivate, .blacklistCallUnknown, .blacklistCallMultiple⟩
  | .message =>
    ⟨.blacklistMessage, .blacklistMessagePrivate, .blacklistMessageUnknown,
     .blacklistMessageMultiple⟩

namespace BlockedEvent

/-- The sentence about an event that stands alone. -/
def sentence (w : Wording) (m : Medium) (e : BlockedEvent) : Except RenderError String :=
  match e.matched with
  | .hidden => w.text m.phrases.oneHidden
  | .unknown => w.text m.phrases.oneUnknown
  | .list | .regex => w.text m.phrases.one [("number", .text e.number.toList)]

/-- The line about an event in a group. -/
def line (w : Wording) (now : Moment) (e : BlockedEvent) : Except RenderError String := do
  let identifier ← if e.number.isEmpty then w.text .blacklistListPrivate else pure e.number
  w.text .blacklistLine
    [("identifier", .text identifier.toList), ("time", .text (e.time.shortText now).toList)]

end BlockedEvent

/-- What an alert tells of some events. -/
structure Medium.Story where
  body : String
  lines : List String := []
  groupCount : Option Nat := none
  /-- Whether one number can be unblocked. -/
  unblocks : Bool

def Medium.story (w : Wording) (now : Moment) (m : Medium) (newest : BlockedEvent)
    (older : List BlockedEvent) : Except RenderError Medium.Story :=
  match older with
  | [] => do
    let body ← newest.sentence w m
    -- Of a single event there is no other number to compare.
    return { body, unblocks := newest.matched = .list }
  | _ :: _ => do
    let events := newest :: older
    let body ← w.text m.phrases.several [("count", .number events.length)]
    let lines ← events.mapM (BlockedEvent.line w now)
    return { body, lines, groupCount := some events.length, unblocks := canUnblock events }

def Medium.summary (w : Wording) (now : Moment) (m : Medium) (newest : BlockedEvent)
    (older : List BlockedEvent) : Except RenderError Alert := do
  let story ← m.story w now newest older
  let actions ←
    if story.unblocks then do
      let label ← w.text .unblockNumber
      pure [{ kind := .unblockNumber, label, target := some newest.number : Action }]
    else pure []
  let title ← w.text .blacklistTitle
  return {
    address := { topic := m.topic }
    title
    body := story.body
    lines := story.lines
    groupCount := story.groupCount
    actionEnabled := story.unblocks
    contentAction := some { kind := .blacklistSettings }
    actions
    dismissAction := some { kind := .clearBlacklist, target := (Mask.ofTopic m.topic).name? }
    shownAt := some newest.time }

def History.summary? (w : Wording) (now : Moment) (h : History) (m : Medium) :
    Except RenderError (Option Alert) :=
  match h.events m with
  | [] => .ok none
  | newest :: older => (m.summary w now newest older).map some

end TelephonyAlerts
