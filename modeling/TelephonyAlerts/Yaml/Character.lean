/-!
# Characters of a YAML text

Which characters a text may hold, and the classes that decide where its parts end. The
end of the text, `none`, ends whatever a line break ends.
-/

namespace TelephonyAlerts.Yaml

/-- Whether a text may hold a character: no controls but tab, line feed and next line,
and neither surrogates nor the last two of the basic plane. -/
def isAllowed (c : Char) : Bool :=
  let n := c.toNat
  n = 0x09 || n = 0x0A || n = 0x0D || (0x20 ≤ n && n ≤ 0x7E) || n = 0x85 ||
    (0xA0 ≤ n && n ≤ 0xD7FF) || (0xE000 ≤ n && n ≤ 0xFFFD) || 0x10000 ≤ n

/-- The mark that may open a text to tell the order of its bytes. It takes no column. -/
def orderMark : Char := '\ufeff'

/-- Line breaks made uniform: a carriage return, with or without a line feed, is a line
feed. -/
def uniformBreaks : List Char → List Char
  | '\r' :: '\n' :: r => '\n' :: uniformBreaks r
  | '\r' :: r => '\n' :: uniformBreaks r
  | c :: r => c :: uniformBreaks r
  | [] => []

def isBreak (c : Char) : Bool := c == '\n' || c == '\u0085' || c == '\u2028' || c == '\u2029'

/-- What a line break is in the value of a scalar: the separators of lines and of
paragraphs stand for themselves. -/
def breakValue (c : Char) : Char := if c == '\u2028' || c == '\u2029' then c else '\n'

def isSpace (c : Char) : Bool := c == ' ' || c == '\t'

def endsLine (c : Option Char) : Bool := c.all isBreak

def endsWord (c : Option Char) : Bool := c.all fun c => c == ' ' || isBreak c

/-- Whether an indicator that stands before this is one: a space, a tab or the end of
the line follows it. -/
def endsIndicator (c : Option Char) : Bool := c.all fun c => isSpace c || isBreak c

def isNameChar (c : Char) : Bool := c.isAlphanum || c == '-' || c == '_'

end TelephonyAlerts.Yaml
