import HeaderBindings.Datum.Yaml.Cursor

/-!
# Plain scalars

A plain scalar goes on over blanks and line ends as long as its lines are indented enough. It ends
before a comment, before a colon at the end of a word, before a mark of the document, and in flow
collections before their punctuation. One line end inside counts as a space; of several the first is
dropped.
-/
namespace HeaderBindings.Datum.Yaml

/-- The text of a scalar and the place after it. `isAtLineStart` tells that it has gone over a line
end after its last word. -/
structure Plain where
  text : Text
  cursor : Cursor
  isAtLineStart : Bool
deriving Repr

namespace Plain

/-- The punctuation of flow collections, apart from the colon. -/
def isFlowMark (c : Char) : Bool := c = ',' || c = '?' || c = '[' || c = ']' || c = '\x7b' || c = '\x7d'

/-- Whether a colon before this text ends a word. -/
def endsKey (inFlow : Bool) (t : Text) : Bool :=
  isGap t || (inFlow && t.head? ≠ some '?' && (t.head?.map isFlowMark).getD false)

/-- The longest word at the start of a text. -/
def word (inFlow : Bool) : Text → Text
  | [] => []
  | c :: r =>
    if isBlank c || isBreak c || (c = ':' && endsKey inFlow r) || (inFlow && isFlowMark c) then []
    else c :: word inFlow r

/-- What follows the first line end between two words: the further line ends, with the spaces
before, between and after them left out. None is given when the document ends there. -/
def moreBreaks : Nat → Cursor → Option Text × Cursor
  | 0, c => (some [], c)
  | fuel + 1, c =>
    match c.rest with
    | [] => (some [], c)
    | ch :: _ =>
      if ch = ' ' then moreBreaks fuel c.next
      else if isBreak ch then
        if c.next.isAtMark then (none, c.next)
        else
          let (breaks, c) := moreBreaks fuel c.next
          (breaks.map (breakText ch ++ ·), c)
      else (some [], c)

/-- What stands for the blanks after a word, the place after them, and whether a line has ended. -/
def gap (c : Cursor) : Text × Cursor × Bool :=
  let (spaces, c) := c.span (· = ' ')
  match c.rest with
  | [] => (spaces, c, false)
  | ch :: _ =>
    if isBreak ch then
      if c.next.isAtMark then ([], c.next, true)
      else match moreBreaks c.rest.length c.next with
        | (none, c) => ([], c, true)
        | (some breaks, c) =>
          let first := if breakText ch ≠ ['\n'] then breakText ch else if breaks = [] then [' '] else []
          (first ++ breaks, c, true)
    else (spaces, c, false)

/-- The words from a place on, with `before` in front of the first; in blocks the lines after the
first are indented by at least `indent`. -/
def readFrom (inFlow : Bool) (indent : Nat) : Nat → Text → Cursor → Bool → Plain
  | 0, _, c, isAtLineStart => ⟨[], c, isAtLineStart⟩
  | fuel + 1, before, c, isAtLineStart =>
    let w := word inFlow c.rest
    if w = [] || c.peek? = some '#' then ⟨[], c, isAtLineStart⟩
    else
      let (between, c, isAtLineStart) := gap (c.advance w.length)
      if between = [] || c.peek? = some '#' || (!inFlow && c.column < indent) then
        ⟨before ++ w, c, isAtLineStart⟩
      else
        let more := readFrom inFlow indent fuel between c isAtLineStart
        { more with text := before ++ w ++ more.text }

def read (inFlow : Bool) (indent : Nat) (c : Cursor) : Plain :=
  readFrom inFlow indent (c.rest.length + 1) [] c false

end Plain
end HeaderBindings.Datum.Yaml
