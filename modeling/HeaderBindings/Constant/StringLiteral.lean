import HeaderBindings.Constant.Token
import HeaderBindings.Text.CharacterName

/-!
# String literals of the expression grammar

No string has a value here, so only two things are read of one: that it is well formed, and the
sources of the expressions inside a formatted string.
-/
namespace HeaderBindings.Constant

namespace StringLiteral

/-- The marks in front of an opening quote, in lower case. -/
def marks : List String := ["r", "b", "f", "u", "br", "rb", "fr", "rf"]

/-- What stands before the closing quote, and what follows it. A backslash keeps the next character
from closing the string. -/
def untilQuote? (q : Char) : Text → Option (Text × Text)
  | [] => none
  | '\\' :: c :: r => (untilQuote? q r).map fun p => ('\\' :: c :: p.1, p.2)
  | c :: r =>
    if c = q then some ([], r)
    else if c = '\n' || c = '\\' then none
    else (untilQuote? q r).map fun p => (c :: p.1, p.2)

def untilTripleQuote? (q : Char) : Text → Option (Text × Text)
  | [] => none
  | '\\' :: c :: r => (untilTripleQuote? q r).map fun p => ('\\' :: c :: p.1, p.2)
  | c :: r =>
    if c = '\\' then none
    else if c :: r.take 2 = [q, q, q] then some ([], r.drop 2)
    else (untilTripleQuote? q r).map fun p => (c :: p.1, p.2)

/-- What an escape still needs; of a name it holds what was read so far, last character first. -/
inductive Escape
  | plain
  | hex (left value : Nat)
  | nameStart
  | name (reversed : Text)
deriving DecidableEq

/-- Whether every escape is complete and every name is one of a character. Byte strings know fewer
escapes. -/
def escapesOk (bytes : Bool) : Escape → Text → Bool
  | .plain, [] => true
  | _, [] => false
  | .plain, '\\' :: c :: r =>
    if c = 'x' then escapesOk bytes (.hex 2 0) r
    else if !bytes && c = 'u' then escapesOk bytes (.hex 4 0) r
    else if !bytes && c = 'U' then escapesOk bytes (.hex 8 0) r
    else if !bytes && c = 'N' then escapesOk bytes .nameStart r
    else escapesOk bytes .plain r
  | .plain, _ :: r => escapesOk bytes .plain r
  | .hex left value, c :: r =>
    match Text.hexValue? c with
    | none => false
    | some d =>
      if left ≤ 1 then value * 16 + d < 0x110000 && escapesOk bytes .plain r
      else escapesOk bytes (.hex (left - 1) (value * 16 + d)) r
  | .nameStart, c :: r => c = '\x7b' && escapesOk bytes (.name []) r
  | .name reversed, c :: r =>
    if c = '\x7d' then Text.isCharacterName reversed.reverse && escapesOk bytes .plain r
    else escapesOk bytes (.name (c :: reversed)) r

/-! ### Formatted strings -/

/-- The source of an expression inside a formatted string and the text from the character that ends
it. The state holds the closing brackets that are due and the quote of an inner string. -/
def untilExpressionEnd? : List Char → Option (Char × Bool) → Text → Option (Text × Text)
  | _, _, [] => none
  | due, some (q, triple), c :: r =>
    let keep := fun (p : Text × Text) => (c :: p.1, p.2)
    if c = '\\' then none
    else if c ≠ q then (untilExpressionEnd? due (some (q, triple)) r).map keep
    else if !triple then (untilExpressionEnd? due none r).map keep
    else match r with
      | d :: e :: s =>
        if d = q ∧ e = q then
          (untilExpressionEnd? due none s).map fun p => (c :: d :: e :: p.1, p.2)
        else (untilExpressionEnd? due (some (q, triple)) (d :: e :: s)).map keep
      | _ => none
  | due, none, c :: r =>
    let keep := fun (p : Text × Text) => (c :: p.1, p.2)
    if c = '\\' || c = '#' then none
    else if c = '\'' || c = '"' then
      match r with
      | d :: e :: s =>
        if d = c ∧ e = c then
          (untilExpressionEnd? due (some (c, true)) s).map fun p => (c :: d :: e :: p.1, p.2)
        else (untilExpressionEnd? due (some (c, false)) (d :: e :: s)).map keep
      | _ => none
    else if c = '(' then (untilExpressionEnd? (')' :: due) none r).map keep
    else if c = '[' then (untilExpressionEnd? (']' :: due) none r).map keep
    else if c = '\x7b' then (untilExpressionEnd? ('\x7d' :: due) none r).map keep
    else match due with
      | [] =>
        match c, r with
        | '!', '=' :: s => (untilExpressionEnd? [] none s).map fun p => ('!' :: '=' :: p.1, p.2)
        | '=', '=' :: s => (untilExpressionEnd? [] none s).map fun p => ('=' :: '=' :: p.1, p.2)
        | '<', '=' :: s => (untilExpressionEnd? [] none s).map fun p => ('<' :: '=' :: p.1, p.2)
        | '>', '=' :: s => (untilExpressionEnd? [] none s).map fun p => ('>' :: '=' :: p.1, p.2)
        | c, r =>
          if c = '!' || c = ':' || c = '\x7d' || c = '=' then some ([], c :: r)
          else if c = ')' || c = ']' then none
          else (untilExpressionEnd? [] none r).map keep
      | closer :: due =>
        if c = ')' || c = ']' || c = '\x7d' then
          if c = closer then (untilExpressionEnd? due none r).map keep else none
        else (untilExpressionEnd? (closer :: due) none r).map keep

def isSourceBlank (c : Char) : Bool :=
  c = ' ' || c = '\t' || c = '\n' || c = '\x0c' || c = '\r'

/-- A debug mark, a conversion, and what is left of the replacement field. -/
def afterExpression? (t : Text) : Option Text :=
  let t := match t with
    | '=' :: r => r.dropWhile fun c => isSourceBlank c || c = '\x0b'
    | r => r
  match t with
  | '!' :: c :: r => if c = 's' || c = 'r' || c = 'a' then some r else none
  | ['!'] => none
  | r => some r

/-- The expressions of a formatted string, and the text that is left: from a closing brace inside a
format specification, nothing otherwise. Specifications nest once. -/
def expressions? (raw : Bool) : Nat → Nat → Text → Option (List Text × Text)
  | 0, _, _ => none
  | _ + 1, level, [] => if level = 0 then some ([], []) else none
  | fuel + 1, level, c :: r =>
    let (escaped, c, r) := match raw, c, r with
      | false, '\\', d :: s => (true, d, s)
      | _, c, r => (false, c, r)
    if escaped && c = 'N' && r.head? = some '\x7b' then
      expressions? raw fuel level ((r.dropWhile (· ≠ '\x7d')).drop 1)
    else if c = '\x7b' then
      if level = 0 && r.head? = some '\x7b' then expressions? raw fuel level (r.drop 1)
      else if level ≥ 2 then none
      else do
        let (source, rest) ← untilExpressionEnd? [] none r
        if source.all isSourceBlank then none
        else
          let rest ← afterExpression? rest
          match rest with
          | ':' :: spec => do
            let (inner, rest) ← expressions? raw fuel (level + 1) spec
            match rest with
            | [] => none
            | _ :: rest => do
              let (later, rest) ← expressions? raw fuel level rest
              some (source :: inner ++ later, rest)
          | '\x7d' :: rest => do
            let (later, rest) ← expressions? raw fuel level rest
            some (source :: later, rest)
          | _ => none
    else if c = '\x7d' then
      if level > 0 then some ([], c :: r)
      else if r.head? = some '\x7d' then expressions? raw fuel level (r.drop 1)
      else none
    else expressions? raw fuel level r

end StringLiteral

/-- The string literal that starts at an opening quote, given the lower-case marks before it. -/
def readString? (marks : Text) (t : Text) : Option (StringToken × Text) := do
  let (body, rest) ← match t with
    | p :: q :: r :: s =>
      if p = q ∧ q = r then StringLiteral.untilTripleQuote? p s
      else StringLiteral.untilQuote? p (q :: r :: s)
    | p :: s => StringLiteral.untilQuote? p s
    | [] => none
  let raw := marks.contains 'r'
  if marks.contains 'b' then
    if body.all (·.toNat < 128) && (raw || StringLiteral.escapesOk true .plain body) then
      some (.bytes, rest)
    else none
  else if !raw && !StringLiteral.escapesOk false .plain body then none
  else if marks.contains 'f' then do
    let (sources, _) ← StringLiteral.expressions? raw (body.length + 1) 0 body
    some (.formatted sources, rest)
  else some (.text, rest)

end HeaderBindings.Constant
