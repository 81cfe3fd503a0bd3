import HeaderBindings.Constant.Grammar
import HeaderBindings.Text.Numeral

/-!
# What is wrong with a text

A text that is no expression is searched from the left for the first thing that stands in no
expression: a broken number or string, a closing bracket that does not fit, a character without
meaning. A bracket is reported as open at the end only if the text could go on there, and a
backslash only if it could go on before it; otherwise nothing particular is said.
-/
namespace HeaderBindings.Constant

inductive Fault
  | general
  | indented
  | brokenNumber
  | leadingZeros
  | tooManyDigits (digits : Nat)
  | brokenString (isTriple : Bool) (lastLine : Nat)
  | strayBackslash
  | meaningless (c : Char)
  | unprintable (c : Char)
  | unmatched (closer : Char)
  | mismatched (closer opener : Char) (openedBefore : Option Nat)
  | neverClosed (opener : Char)
  | tooDeep
deriving DecidableEq, Repr

/-- A fault and the line that it is reported for. -/
structure Diagnosis where
  fault : Fault
  line : Nat
deriving DecidableEq, Repr

def quotedChar (c : Char) : String := String.ofList ['\'', c, '\'']

/-- The code point of a character as it is shown in messages. -/
def codePoint (c : Char) : String :=
  "U+" ++ String.ofList ((Text.ofHex 4 c.toNat).map Char.toUpper)

def Fault.message : Fault → String
  | .general => "invalid syntax"
  | .indented => "unexpected indent"
  | .brokenNumber => "invalid decimal literal"
  | .leadingZeros => "leading zeros in decimal integer literals are not permitted; " ++
      "use an 0o prefix for octal integers"
  | .tooManyDigits n => (Text.NumeralError.tooLong n).message ++
      " - Consider hexadecimal for huge integer literals to avoid decimal conversion limits."
  | .brokenString isTriple n =>
    let kind := if isTriple then "triple-quoted string" else "string"
    "unterminated " ++ kind ++ " literal (detected at line " ++ toString n ++ ")"
  | .strayBackslash => "unexpected character after line continuation character"
  | .meaningless c => "invalid character " ++ quotedChar c ++ " (" ++ codePoint c ++ ")"
  | .unprintable c => "invalid non-printable character " ++ codePoint c
  | .unmatched c => "unmatched " ++ quotedChar c
  | .mismatched c o before =>
    let place := match before with
      | some n => " on line " ++ toString n
      | none => ""
    "closing parenthesis " ++ quotedChar c ++ " does not match opening parenthesis " ++
      quotedChar o ++ place
  | .neverClosed o => quotedChar o ++ " was never closed"
  | .tooDeep => "too many nested parentheses"

def Diagnosis.message (d : Diagnosis) : String :=
  d.fault.message ++ " (<unknown>, line " ++ toString d.line ++ ")"

/-! ### Searching -/

/-- An open bracket and the line it stands on. -/
structure Bracket where
  opener : Char
  line : Nat
deriving DecidableEq, Repr

def closerOf (opener : Char) : Char :=
  if opener = '(' then ')' else if opener = '[' then ']' else '\x7d'

def isOpenBracket (c : Char) : Bool := c = '(' || c = '[' || c = '\x7b'

def isCloseBracket (c : Char) : Bool := c = ')' || c = ']' || c = '\x7d'

/-- What follows a number, given its integer digits and whether it has more than those. -/
def afterDigits (whole : Text) (isFloat : Bool) (rest : Text) : Except Fault Text :=
  if !isFloat && whole.head? = some '0' && whole.any (· ≠ '0') then .error .leadingZeros
  else if rest.head?.any fun c => c.isAlphanum || c = '_' then .error .brokenNumber
  else if !isFloat && whole.length > maxLiteralDigits then .error (.tooManyDigits whole.length)
  else .ok rest

/-- What follows a number literal. -/
def afterNumber (t : Text) : Except Fault Text :=
  match t with
  | '0' :: 'o' :: r => .ok (r.dropWhile Char.isDigit)
  | t =>
    let whole := t.takeWhile Char.isDigit
    let r := t.dropWhile Char.isDigit
    let hasPoint := r.head? = some '.'
    let r := if hasPoint then r.tail.dropWhile Char.isDigit else r
    if r.head? = some 'e' || r.head? = some 'E' then
      let r := r.tail
      let r := if r.head? = some '+' || r.head? = some '-' then r.tail else r
      if r.head?.any Char.isDigit then afterDigits whole true (r.dropWhile Char.isDigit)
      else .error .brokenNumber
    else afterDigits whole hasPoint r

/-- The fault of a character that belongs to no word. -/
def faultOf (c : Char) : Fault := if Text.isPrintable c then .meaningless c else .unprintable c

/-- The first character of a word that does not belong to one. -/
def strayInWord? (w : Text) : Option Char :=
  match w with
  | [] => none
  | c :: r =>
    if Text.startsIdentifier c then r.find? (!Text.continuesIdentifier ·) else some c

/-- Where a search has ended: at the end of the text, at a fault, or at a backslash that joins no
lines, with what stands before it. -/
inductive Found
  | nothing (brackets : List Bracket)
  | fault (d : Diagnosis)
  | backslash (line : Nat) (brackets : List Bracket) (rest : Text)
deriving DecidableEq, Repr

/-- Searches a text from a line on, with the brackets that are open before it. -/
def search : Nat → Nat → List Bracket → Text → Found
  | 0, _, brackets, _ => .nothing brackets
  | _ + 1, _, brackets, [] => .nothing brackets
  | fuel + 1, line, brackets, c :: r =>
    if c = '\n' then search fuel (line + 1) brackets r
    else if c = ' ' || c = '\t' || c = '\x0c' then search fuel line brackets r
    else if c = '#' then search fuel line brackets (r.dropWhile (· ≠ '\n'))
    else if c = '\\' then
      match r with
      | '\n' :: r => search fuel (line + 1) brackets r
      | r => .backslash line brackets r
    else if atNumber (c :: r) then
      match afterNumber (c :: r) with
      | .ok rest => search fuel line brackets rest
      | .error fault => .fault ⟨fault, line⟩
    else if c = '"' || c = '\'' then
      match readString? [] (c :: r) with
      | some (_, rest) => search fuel (line + (r.count '\n' - rest.count '\n')) brackets rest
      | none =>
        let isTriple := r.take 2 = [c, c]
        .fault ⟨.brokenString isTriple (if isTriple then line + r.count '\n' else line), line⟩
    else if Text.mayBeIdentifier c then
      match strayInWord? ((c :: r).takeWhile Text.mayBeIdentifier) with
      | some stray => .fault ⟨faultOf stray, line⟩
      | none => search fuel line brackets (r.dropWhile Text.mayBeIdentifier)
    else if isOpenBracket c then
      if brackets.length ≥ maxOpenBrackets then .fault ⟨.tooDeep, line⟩
      else search fuel line (⟨c, line⟩ :: brackets) r
    else if isCloseBracket c then
      match brackets with
      | [] => .fault ⟨.unmatched c, line⟩
      | b :: brackets =>
        if c = closerOf b.opener then search fuel line brackets r
        else
          let before := if b.line = line then none else some b.line
          .fault ⟨.mismatched c b.opener before, line⟩
    else if Text.isPrintable c then search fuel line brackets r
    else .fault ⟨.unprintable c, line⟩

def isExpression (t : Text) : Bool := (Node.ofText t).isOk

/-- Whether a text with open brackets is an expression once they are closed, at once or after one
more number. -/
def couldGoOn (t : Text) (brackets : List Bracket) : Bool :=
  let between := if brackets = [] then ' ' else '\n'
  let closers := brackets.map fun b => closerOf b.opener
  [between :: closers, between :: '1' :: closers].any fun ending =>
    isExpression (Text.trim (t ++ ending))

/-- The line of the first token that cannot stand where it does, or the last line, given the lines
of a text and the number of the first. `isOver` tells that the expression has ended before. -/
def strayLine (isOver : Bool) (n : Nat) : List Text → Nat
  | [] => n - 1
  | l :: ls =>
    if (tokens l).isEmpty then strayLine isOver (n + 1) ls
    else if !isOver && isExpression l then strayLine true (n + 1) ls
    else n

/-- What is wrong with a text that is no expression. -/
def diagnose (t : Text) (cause : SyntaxError) : Diagnosis :=
  let t := Text.unifyLineEnds t
  let line := strayLine false 1 (Text.lines t)
  if cause = .indented then ⟨.indented, line⟩
  else match search (t.length + 1) 1 [] t with
    | .fault d => d
    | .backslash n brackets rest =>
      let before := t.take (t.length - rest.length - 1)
      if couldGoOn before brackets then ⟨.strayBackslash, n⟩ else ⟨.general, line⟩
    | .nothing [] => ⟨.general, line⟩
    | .nothing (b :: brackets) =>
      if couldGoOn t (b :: brackets) then ⟨.neverClosed b.opener, b.line⟩ else ⟨.general, line⟩

end HeaderBindings.Constant
