import HeaderBindings.Text.Numeral

/-!
# Positions in a YAML document

A cursor is a place in a document, with the line and the column that it is in. Line feeds, U+0085
and the two Unicode separators end a line; the separators stay in a text that goes over them, the
others become line feeds. Only the space and the tab are blanks. Carriage returns have become line
feeds before a document is read.
-/
namespace HeaderBindings.Datum.Yaml

/-- Why a text is no document, by what is wrong with it: a character, a token, the order of tokens,
a reference or the number of documents, a value, or how deep it is nested. -/
inductive Problem
  | illegalCharacter
  | badToken
  | misplacedToken
  | badReference
  | badValue
  | tooLong (digits : Nat)
  | noDigits (base : Nat)
  | badCodePoint
  | noMoment (fault : String)
  | tooDeep
deriving DecidableEq, Repr

def Problem.message : Problem → String
  | .tooLong digits => (Text.NumeralError.tooLong digits).message
  | .noDigits base => s!"invalid literal for int() with base {base}: ''"
  | .badCodePoint => "chr() arg not in range(0x110000)"
  | .noMoment fault => fault
  | .tooDeep => "maximum recursion depth exceeded"
  | _ => "malformed YAML"

def isBreak (c : Char) : Bool := c = '\n' || c = '\x85' || c = '\u2028' || c = '\u2029'

def isBlank (c : Char) : Bool := c = ' ' || c = '\t'

/-- What a line end stands for in a text that goes over it. -/
def breakText (c : Char) : Text := if c = '\u2028' || c = '\u2029' then [c] else ['\n']

/-- Whether a word ends before this text. -/
def isGap : Text → Bool
  | [] => true
  | c :: _ => isBlank c || isBreak c

/-- Whether a character may stand in a document. -/
def isLegal (c : Char) : Bool :=
  let n := c.toNat
  n = 9 || n = 10 || n = 13 || (0x20 ≤ n && n ≤ 0x7E) || n = 0x85 || (0xA0 ≤ n && n ≤ 0xFFFD) ||
    0x10000 ≤ n

/-- Dashes or points at the start of a line that mark the start or the end of a document. -/
def isDocumentMark (mark : Char) (t : Text) : Bool :=
  t.take 3 = [mark, mark, mark] && isGap (t.drop 3)

structure Cursor where
  rest : Text
  index : Nat
  line : Nat
  column : Nat
deriving Repr

namespace Cursor

def start (t : Text) : Cursor := ⟨t, 0, 0, 0⟩

/-- One character further; a byte order mark takes no column. -/
def next (c : Cursor) : Cursor :=
  match c.rest with
  | [] => c
  | ch :: r =>
    if isBreak ch then ⟨r, c.index + 1, c.line + 1, 0⟩
    else ⟨r, c.index + 1, c.line, if ch = '\uFEFF' then c.column else c.column + 1⟩

def advance : Nat → Cursor → Cursor
  | 0, c => c
  | n + 1, c => advance n c.next

def peek? (c : Cursor) : Option Char := c.rest.head?

def isAt (c : Cursor) (p : Char → Bool) : Bool := (c.peek?.map p).getD false

/-- The characters that satisfy a condition, and the place after them. -/
def span (c : Cursor) (p : Char → Bool) : Text × Cursor :=
  let t := c.rest.takeWhile p
  (t, c.advance t.length)

def skip (c : Cursor) (p : Char → Bool) : Cursor := (c.span p).2

/-- Whether a mark at the start of a line ends the document or starts another. -/
def isAtMark (c : Cursor) : Bool := isDocumentMark '-' c.rest || isDocumentMark '.' c.rest

/-- A comment, if there is one. -/
def skipComment (c : Cursor) : Cursor := if c.peek? = some '#' then c.skip (!isBreak ·) else c

end Cursor
end HeaderBindings.Datum.Yaml
