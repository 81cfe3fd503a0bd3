import HeaderBindings.Text.PrintableTable
import HeaderBindings.Text.Digit

/-!
# Quoted texts in messages

A text in a message stands in single quotes, or in double quotes when it holds a single quote and no
double quote. The quote in use, the backslash and three control characters are written with a
backslash, and other characters that do not print are written by their code point.
-/
namespace HeaderBindings.Text

def isPrintable (c : Char) : Bool :=
  if c.toNat < 128 then 32 ≤ c.toNat && c.toNat < 127 else inRanges printableTable c.toNat

def quoteMark (t : Text) : Char := if t.contains '\'' && !t.contains '"' then '"' else '\''

/-- A character by its code point, with two, four or eight digits. -/
def escapeCode (c : Char) : Text :=
  if c.toNat < 256 then '\\' :: 'x' :: ofHex 2 c.toNat
  else if c.toNat < 65536 then '\\' :: 'u' :: ofHex 4 c.toNat
  else '\\' :: 'U' :: ofHex 8 c.toNat

def escapeChar (mark c : Char) : Text :=
  if c = mark || c = '\\' then ['\\', c]
  else if c = '\n' then ['\\', 'n']
  else if c = '\r' then ['\\', 'r']
  else if c = '\t' then ['\\', 't']
  else if isPrintable c then [c]
  else escapeCode c

def quoted (t : Text) : Text :=
  quoteMark t :: t.flatMap (escapeChar (quoteMark t)) ++ [quoteMark t]

/-- A text with all characters beyond ASCII by their code point. -/
def escapeNonAscii (t : Text) : Text := t.flatMap fun c => if c.toNat < 128 then [c] else escapeCode c

end HeaderBindings.Text
