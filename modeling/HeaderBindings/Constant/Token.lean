import HeaderBindings.Text.Identifier
import HeaderBindings.Text.Digit
import HeaderBindings.Decimal.Binary64

/-!
# Tokens of the expression grammar

An expression is a sequence of number literals, words, string literals and symbols. Blanks and
comments separate tokens; a line end counts only outside brackets, where it ends the expression.
A decimal integer with a leading zero is no literal unless it is zero.
-/
namespace HeaderBindings.Constant

inductive Symbol
  | plus | minus | star | slash | percent | at | tilde | caret | ampersand | bar
  | shiftLeft | shiftRight | doubleStar | doubleSlash
  | less | greater | lessEqual | greaterEqual | equal | notEqual
  | openParen | closeParen | openBracket | closeBracket | openBrace | closeBrace
  | comma | colon | dot | semicolon | assign | walrus | ellipsis | other
deriving DecidableEq, Repr

/-- A string literal: text, bytes, or text with the sources of the expressions in it. -/
inductive StringToken
  | text | bytes | formatted (expressions : List Text)
deriving DecidableEq, Repr

inductive Token
  | int (n : Nat)
  | float (x : Float)
  | imaginary
  | word (w : Text)
  | string (s : StringToken)
  | symbol (s : Symbol)
  | lineEnd
  | indent
  /-- stands for the rest of a text that goes on with no token -/
  | unreadable
deriving Repr, BEq

/-- Symbols of three, two and one characters; the longest one that fits is taken. -/
def symbolTable : List (String × Symbol) := [
    ("**=", .other), ("//=", .other), ("<<=", .other), (">>=", .other), ("...", .ellipsis),
    ("!=", .notEqual), ("**", .doubleStar), ("*=", .other), ("//", .doubleSlash), ("/=", .other),
    ("%=", .other), ("&=", .other), ("|=", .other), ("^=", .other), ("+=", .other),
    ("-=", .other), ("->", .other), (":=", .walrus), ("<<", .shiftLeft), ("<=", .lessEqual),
    ("<>", .other), ("==", .equal), (">>", .shiftRight), (">=", .greaterEqual), ("@=", .other),
    ("%", .percent), ("&", .ampersand), ("(", .openParen), (")", .closeParen), ("*", .star),
    ("+", .plus), (",", .comma), ("-", .minus), (".", .dot), ("/", .slash), (":", .colon),
    (";", .semicolon), ("<", .less), ("=", .assign), (">", .greater), ("@", .at),
    ("[", .openBracket), ("]", .closeBracket), ("^", .caret), ("\x7b", .openBrace),
    ("|", .bar), ("\x7d", .closeBrace), ("~", .tilde)]

def readSymbol? (t : Text) : Option (Symbol × Text) :=
  symbolTable.findSome? fun p => (Text.dropPrefix? p.1.toList t).map fun r => (p.2, r)

/-! ### Number literals -/

def decimalDigit? (c : Char) : Option Nat := if c.isDigit then some (c.toNat - 48) else none

def octalDigit? (c : Char) : Option Nat := (decimalDigit? c).filter (· < 8)

def binaryDigit? (c : Char) : Option Nat := (decimalDigit? c).filter (· < 2)

/-- A number may be followed at once by one of these words, but by no other letter or digit. -/
def wordsAfterNumber : List String := ["and", "else", "for", "if", "in", "is", "or", "not"]

def mayEndNumber : Text → Bool
  | [] => true
  | c :: r => !Text.mayBeIdentifier c ||
      wordsAfterNumber.any fun w => Text.startsWith (c :: r) w.toList

/-- A decimal integer literal has at most this many digits. -/
def maxLiteralDigits : Nat := 4300

/-- The digits after a base mark; one underscore may stand in front of them. -/
def readBased? (base : Nat) (value? : Char → Option Nat) (t : Text) : Option (Token × Text) :=
  let t := match t with
    | '_' :: r => r
    | r => r
  match Text.digitGroups? value? t with
  | some (d :: ds, r) =>
    if mayEndNumber r then some (.int (Text.ofDigits base (d :: ds)), r) else none
  | _ => none

/-- An exponent at the start of a text: a mark, an optional sign, and digits. The outer option is
`none` for a mark with a sign and no digit. -/
def readExponent? (t : Text) : Option (Option Int × Text) :=
  match t with
  | c :: r =>
    if c = 'e' ∨ c = 'E' then
      match r with
      | '+' :: s => signed 1 s
      | '-' :: s => signed (-1) s
      | s =>
        match Text.digitGroups? decimalDigit? s with
        | some ([], _) => some (none, t)
        | some (ds, s) => some (some (Text.ofDigits 10 ds : Int), s)
        | none => none
    else some (none, t)
  | [] => some (none, [])
where
  signed (sign : Int) (s : Text) : Option (Option Int × Text) :=
    match Text.digitGroups? decimalDigit? s with
    | some (d :: ds, s) => some (some (sign * (Text.ofDigits 10 (d :: ds) : Int)), s)
    | _ => none

/-- The part of a literal after its integer digits: fraction, exponent and imaginary mark. -/
def finishNumber? (whole : List Nat) (t : Text) : Option (Token × Text) := do
  let (fraction, t) ← match t with
    | '.' :: r => (Text.digitGroups? decimalDigit? r).map fun p => (some p.1, p.2)
    | r => some (none, r)
  let (exponent, t) ← readExponent? t
  match t with
  | 'j' :: r => if mayEndNumber r then some (.imaginary, r) else none
  | 'J' :: r => if mayEndNumber r then some (.imaginary, r) else none
  | r =>
    if !mayEndNumber r then none
    else if fraction = none && exponent = none then
      if (whole.head? = some 0 && whole.any (· ≠ 0)) || whole.length > maxLiteralDigits then none
      else some (.int (Text.ofDigits 10 whole), r)
    else
      let places := fraction.getD []
      some (.float (Decimal.floatOfDecimal (Text.ofDigits 10 (whole ++ places))
        (exponent.getD 0 - places.length)), r)

/-- A number literal at the start of a text. -/
def readNumber? (t : Text) : Option (Token × Text) :=
  match t with
  | '0' :: 'x' :: r => readBased? 16 Text.hexValue? r
  | '0' :: 'X' :: r => readBased? 16 Text.hexValue? r
  | '0' :: 'o' :: r => readBased? 8 octalDigit? r
  | '0' :: 'O' :: r => readBased? 8 octalDigit? r
  | '0' :: 'b' :: r => readBased? 2 binaryDigit? r
  | '0' :: 'B' :: r => readBased? 2 binaryDigit? r
  | t => do
    let (whole, r) ← Text.digitGroups? decimalDigit? t
    finishNumber? whole r

/-- Whether a number literal starts here: a digit, or a point and a digit. -/
def atNumber : Text → Bool
  | '.' :: c :: _ => c.isDigit
  | c :: _ => c.isDigit
  | [] => false

end HeaderBindings.Constant
