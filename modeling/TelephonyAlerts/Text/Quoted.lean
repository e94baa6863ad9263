import TelephonyAlerts.Text.Printable

/-!
# Quoted text

A text shown inside a message stands in quotes: single ones, unless it holds a
single quote and no double one. The quote in use and the backslash are escaped,
and so is every character that could not be seen.
-/

namespace TelephonyAlerts.Text

def hex (width n : Nat) : List Char :=
  let ds := Nat.toDigits 16 n
  List.replicate (width - ds.length) '0' ++ ds

/-- The escape of a character by its number: two, four or eight hexadecimal digits. -/
def escapeByNumber (c : Char) : List Char :=
  if c.toNat < 0x100 then '\\' :: 'x' :: hex 2 c.toNat
  else if c.toNat < 0x10000 then '\\' :: 'u' :: hex 4 c.toNat
  else '\\' :: 'U' :: hex 8 c.toNat

/-- The written form of one character between the quotes `q`, where `shown` says
which characters stand as themselves. -/
def quoteChar (shown : Char → Bool) (q c : Char) : List Char :=
  if c = q ∨ c = '\\' then ['\\', c]
  else if c = '\t' then ['\\', 't']
  else if c = '\n' then ['\\', 'n']
  else if c = '\r' then ['\\', 'r']
  else if shown c then [c]
  else escapeByNumber c

def quoteFor (s : List Char) : Char :=
  if '\x27' ∈ s ∧ '\x22' ∉ s then '\x22' else '\x27'

def quoteWith (shown : Char → Bool) (s : List Char) : List Char :=
  let q := quoteFor s
  q :: s.flatMap (quoteChar shown q) ++ [q]

def quote (s : List Char) : List Char := quoteWith isPrintable s

def quoteAscii (s : List Char) : List Char :=
  quoteWith (fun c => isPrintable c && c.toNat < 128) s

def quoted (s : String) : String := String.ofList (quote s.toList)

example : quoted "it's" = "\"it's\"" ∧ quoted "a\tb\\" = "'a\\tb\\\\'" := by decide +kernel

end TelephonyAlerts.Text
