import TelephonyAlerts.Yaml.Token.Quoted

/-!
# Plain scalars

A plain scalar is made of words. It ends before a colon that is an indicator, before a
comment, before a line that is indented less than its collection, and inside brackets
also before whatever has a meaning there.
-/

namespace TelephonyAlerts.Yaml.Plain

def endsInFlow (c : Char) : Bool := ",?[]\x7b\x7d".toList.contains c

/-- Whether a colon before this is an indicator. -/
def endsColon (inFlow : Bool) (c : Option Char) : Bool :=
  endsIndicator c || (inFlow && c.any fun c => ",[]\x7b\x7d".toList.contains c)

def word (inFlow : Bool) : List Char → List Char
  | [] => []
  | c :: r =>
    if isSpace c || isBreak c || (c = ':' && endsColon inFlow r.head?) || (inFlow && endsInFlow c)
    then []
    else c :: word inFlow r

/-- What stands between two words: its value, whether a line break is in it, and what
follows it. -/
structure Gap where
  value : List Char
  breaks : Bool
  next : Cursor

/-- Line breaks of blank lines, spaces left out; `none` before a mark between documents. -/
def blankLinesFrom : Nat → Cursor → Option (List Char) × Cursor
  | 0, c => (some [], c)
  | fuel + 1, c =>
    if c.atSeparator then (none, c)
    else
      let c := c.skipSpaces
      match c.lineBreak? with
      | none => (some [], c)
      | some (b, c) =>
        let (bs, c) := blankLinesFrom fuel c
        (bs.map (b :: ·), c)

def gap (c : Cursor) : Gap :=
  let (spaces, c) := c.span (· == ' ')
  match c.lineBreak? with
  | none => ⟨spaces, false, c⟩
  | some (b, c) =>
    match blankLinesFrom (c.rest.length + 1) c with
    | (some bs, c) => ⟨folded b bs, true, c⟩
    -- The line breaks before a mark between documents do not count.
    | (none, c) => ⟨[], true, c⟩

/-- The words from here on, with the gaps before them. The gap behind the last word
tells whether a line break follows the scalar. -/
def wordsFrom (inFlow : Bool) (indent : Nat) : Nat → Gap → List Char × Gap
  | 0, g => ([], g)
  | fuel + 1, g =>
    match word inFlow g.next.rest with
    | [] => ([], g)
    | w =>
      let g' := gap (g.next.forwardBy w.length)
      if g'.value.isEmpty || g'.next.peek = some '#' || (!inFlow && g'.next.column < indent) then
        (g.value ++ w, g')
      else
        let (more, last) := wordsFrom inFlow indent fuel g'
        (g.value ++ w ++ more, last)

end Plain

/-- The text of a plain scalar that starts here, whether a line break follows it, and
what comes then. Outside brackets its lines are indented by `indent` at least. -/
def Cursor.plain (c : Cursor) (inFlow : Bool) (indent : Nat) : List Char × Bool × Cursor :=
  let (text, last) := Plain.wordsFrom inFlow indent (c.rest.length + 1) ⟨[], false, c⟩
  (text, last.breaks, last.next)

end TelephonyAlerts.Yaml
