import HeaderBindings.Text.Wide

/-!
# Shell words

A command is split at spaces, tabs and line ends. Single quotes keep everything up to the next one;
double quotes do too, but a backslash in them escapes a quote or a backslash. Outside quotes a
backslash escapes any character. Quotes with nothing inside still make a word.
-/
namespace HeaderBindings.Text

inductive WordsError
  | noClosingQuotation
  | noEscapedCharacter
deriving DecidableEq, Repr

def WordsError.message : WordsError → String
  | .noClosingQuotation => "No closing quotation"
  | .noEscapedCharacter => "No escaped character"

/-- Where a reader stands: between words, in a word, or in quotes. -/
inductive WordState
  | between | word | single | double
deriving DecidableEq, Repr

def isWordBlank (c : Char) : Bool := c = ' ' || c = '\t' || c = '\r' || c = '\n'

/-- Puts a code point in front of the first word. -/
def WordState.put {α : Type} (a : α) : List (List α) → List (List α)
  | [] => [[a]]
  | w :: ws => (a :: w) :: ws

/-- The words of code points, each seen as a character. In a word, the first of them is what is left
of it. -/
def WordState.read {α : Type} (view : α → Char) :
    WordState → List α → Except WordsError (List (List α))
  | .between, [] => .ok []
  | .word, [] => .ok [[]]
  | .single, [] => .error .noClosingQuotation
  | .double, [] => .error .noClosingQuotation
  | .single, a :: r =>
    if view a = '\'' then word.read view r else (single.read view r).map (put a)
  | .double, a :: r =>
    if view a = '\\' then
      match r with
      | [] => .error .noEscapedCharacter
      | b :: r =>
        if view b = '"' || view b = '\\' then (double.read view r).map (put b)
        else (double.read view r).map fun ws => put a (put b ws)
    else if view a = '"' then word.read view r
    else (double.read view r).map (put a)
  | .between, a :: r =>
    if isWordBlank (view a) then between.read view r
    else if view a = '\'' then single.read view r
    else if view a = '"' then double.read view r
    else if view a = '\\' then
      match r with
      | [] => .error .noEscapedCharacter
      | b :: r => (word.read view r).map (put b)
    else (word.read view r).map (put a)
  | .word, a :: r =>
    if isWordBlank (view a) then (between.read view r).map ([] :: ·)
    else if view a = '\'' then single.read view r
    else if view a = '"' then double.read view r
    else if view a = '\\' then
      match r with
      | [] => .error .noEscapedCharacter
      | b :: r => (word.read view r).map (put b)
    else (word.read view r).map (put a)

def shellWords (t : Text) : Except WordsError (List Text) := WordState.between.read id t

/-- The words of a string that may hold surrogates. -/
def wideWords (w : WideText) : Except WordsError (List WideText) :=
  WordState.between.read CodePoint.stand w

end HeaderBindings.Text
