import HeaderBindings.Constant.StringLiteral
import HeaderBindings.Text.Lines

/-!
# From a source text to tokens

Outside brackets a line end becomes a token unless its line is empty, and a line that starts further
right than the first is marked. At most 200 brackets may be open at once.
-/
namespace HeaderBindings.Constant

def maxOpenBrackets : Nat := 200

/-- The mark for a line that does not start at the left edge; empty lines and comments have none. -/
def indentation : Nat → Text → List Token
  | column, ' ' :: r => indentation (column + 1) r
  | column, '\t' :: r => indentation (column + 1) r
  | _, '\x0c' :: r => indentation 0 r
  | column, '\\' :: '\n' :: r => indentation column r
  | _, [] => []
  | column, c :: _ => if column = 0 || c = '\n' || c = '#' || c = '\\' then [] else [.indent]

/-- A word, or a string literal whose marks the word is. -/
def readWord? (t : Text) : Option (Token × Text) :=
  let w := t.takeWhile Text.mayBeIdentifier
  let r := t.dropWhile Text.mayBeIdentifier
  if (r.head? = some '"' || r.head? = some '\'')
      && StringLiteral.marks.any (·.toList = Text.lower w) then
    (readString? (Text.lower w) r).map fun p => (.string p.1, p.2)
  else if Text.isIdentifier w then some (.word w, r)
  else none

/-- The token at the start of a text. -/
def readToken? (t : Text) : Option (Token × Text) :=
  match t with
  | [] => none
  | c :: _ =>
    if atNumber t then readNumber? t
    else if Text.mayBeIdentifier c then readWord? t
    else if c = '"' || c = '\'' then (readString? [] t).map fun p => (.string p.1, p.2)
    else (readSymbol? t).map fun p => (.symbol p.1, p.2)

/-- The brackets that are open after a token, if that is allowed. -/
def bracketsAfter? (depth : Nat) : Token → Option Nat
  | .symbol s =>
    if s = .openParen || s = .openBracket || s = .openBrace then
      if depth < maxOpenBrackets then some (depth + 1) else none
    else if s = .closeParen || s = .closeBracket || s = .closeBrace then
      if depth = 0 then none else some (depth - 1)
    else some depth
  | _ => some depth

/-- The tokens of a text, each step of which uses up a character. `empty` tells that the line has no
token so far. -/
def tokensFrom : Nat → Nat → Bool → Text → List Token
  | 0, _, _, _ => [.unreadable]
  | _ + 1, _, _, [] => []
  | fuel + 1, depth, empty, c :: r =>
    if c = ' ' || c = '\t' || c = '\x0c' then tokensFrom fuel depth empty r
    else if c = '\n' then
      if depth = 0 then
        (if empty then [] else [.lineEnd]) ++ indentation 0 r ++ tokensFrom fuel 0 true r
      else tokensFrom fuel depth empty r
    else if c = '#' then tokensFrom fuel depth empty (r.dropWhile (· ≠ '\n'))
    else if c = '\\' then
      match r with
      | '\n' :: d :: s => tokensFrom fuel depth empty (d :: s)
      | _ => [.unreadable]
    else
      match readToken? (c :: r) with
      | none => [.unreadable]
      | some (token, rest) =>
        match bracketsAfter? depth token with
        | none => [.unreadable]
        | some depth => token :: tokensFrom fuel depth false rest

/-- The tokens of a source text. -/
def tokens (t : Text) : List Token :=
  let t := Text.unifyLineEnds t
  indentation 0 t ++ tokensFrom (t.length + 1) 0 true t

end HeaderBindings.Constant
