import HeaderBindings.Datum.Yaml.Cursor
import HeaderBindings.Text.Digit

/-!
# Quoted scalars

Between single quotes a quote is written twice; between double quotes a backslash starts an escape.
A line end counts as in a plain scalar, whatever the lines are indented by, and blanks around it are
left out. A backslash before a line end joins two lines.
-/
namespace HeaderBindings.Datum.Yaml.Quoted

open Text

def escapeTable : List (Char × Char) := [
    ('0', '\x00'), ('a', '\x07'), ('b', '\x08'), ('t', '\t'), ('\t', '\t'), ('n', '\n'),
    ('v', '\x0b'), ('f', '\x0c'), ('r', '\r'), ('e', '\x1b'), (' ', ' '), ('"', '"'), ('/', '/'),
    ('\\', '\\'), ('N', '\x85'), ('_', '\u00a0'), ('L', '\u2028'), ('P', '\u2029')]

/-- How many digits follow the mark of an escape by code point. -/
def codeWidth? (c : Char) : Option Nat :=
  if c = 'x' then some 2 else if c = 'u' then some 4 else if c = 'U' then some 8 else none

/-- The character of a code point; half of a pair becomes U+FFFD. -/
def characterOf (n : Nat) : Except Problem Char :=
  if n > 0x10FFFF then .error .badCodePoint
  else if n.isValidChar then .ok (Char.ofNat n)
  else .ok '\uFFFD'

/-- The line ends from the start of a line on, with the blanks between them left out. -/
def breaks : Nat → Cursor → Except Problem (Text × Cursor)
  | 0, c => .ok ([], c)
  | fuel + 1, c =>
    if c.isAtMark then .error .badToken
    else
      let c := c.skip isBlank
      match c.rest with
      | [] => .ok ([], c)
      | ch :: _ =>
        if isBreak ch then (breaks fuel c.next).map fun p => (breakText ch ++ p.1, p.2)
        else .ok ([], c)

/-- What stands for blanks and line ends between two words. -/
def gap (c : Cursor) : Except Problem (Text × Cursor) :=
  let (blanks, c) := c.span isBlank
  match c.rest with
  | [] => .error .badToken
  | ch :: _ =>
    if isBreak ch then
      (breaks c.rest.length c.next).map fun p =>
        let first := if breakText ch ≠ ['\n'] then breakText ch else if p.1 = [] then [' '] else []
        (first ++ p.1, p.2)
    else .ok (blanks, c)

/-- What an escape stands for; the place is after its backslash. -/
def escape (c : Cursor) : Except Problem (Text × Cursor) :=
  match c.rest with
  | [] => .error .badToken
  | ch :: r =>
    match (escapeTable.find? (·.1 = ch)).map (·.2), codeWidth? ch with
    | some d, _ => .ok ([d], c.next)
    | none, some width =>
      match (r.take width).mapM hexValue? with
      | some ds =>
        if ds.length < width then .error .badToken
        else (characterOf (ofDigits 16 ds)).map fun d => ([d], c.advance (width + 1))
      | none => .error .badToken
    | none, none => if isBreak ch then breaks r.length c.next else .error .badToken

/-- The text up to the closing quote, and the place after it. -/
def readFrom (isDouble : Bool) : Nat → Cursor → Except Problem (Text × Cursor)
  | 0, _ => .error .badToken
  | fuel + 1, c => do
    match c.rest with
    | [] => .error .badToken
    | ch :: r =>
      if isBlank ch || isBreak ch then after fuel (← gap c)
      else if isDouble then
        if ch = '"' then .ok ([], c.next)
        else if ch = '\\' then after fuel (← escape c.next)
        else after fuel ([ch], c.next)
      else if ch = '\'' then
        if r.head? = some '\'' then after fuel (['\''], c.advance 2) else .ok ([], c.next)
      else after fuel ([ch], c.next)
where
  after (fuel : Nat) (p : Text × Cursor) : Except Problem (Text × Cursor) :=
    (readFrom isDouble fuel p.2).map fun q => (p.1 ++ q.1, q.2)

/-- The scalar whose opening quote is at a place. -/
def read (c : Cursor) : Except Problem (Text × Cursor) :=
  readFrom (c.peek? = some '"') (c.rest.length + 1) c.next

end HeaderBindings.Datum.Yaml.Quoted
