import HeaderBindings.Datum.Yaml.Cursor

/-!
# Block scalars

The lines of a block scalar are those after its header that are indented enough. In the literal
style line ends stay; in the folded style a line end between two lines that start with no blank
becomes a space. The header may give the indentation, and tell whether all line ends at the end stay
or none.
-/
namespace HeaderBindings.Datum.Yaml.BlockScalar

/-- Which line ends at the end of a scalar stay. -/
inductive Tail
  | strip | clip | keep
deriving DecidableEq, Repr

structure Header where
  tail : Tail
  indent : Option Nat
deriving DecidableEq, Repr

def tail? (c : Cursor) : Option Tail :=
  if c.peek? = some '+' then some .keep else if c.peek? = some '-' then some .strip else none

/-- An indentation of one to nine. -/
def indent? (c : Cursor) : Except Problem (Option Nat) :=
  match c.peek? with
  | some ch =>
    if !ch.isDigit then .ok none
    else if ch = '0' then .error .badToken
    else .ok (some (ch.toNat - 48))
  | none => .ok none

/-- The header after the mark of the style, up to the end of its line. -/
def readHeader (c : Cursor) : Except Problem (Header × Cursor) := do
  let (header, c) ← match tail? c with
    | some tail => do
      match ← indent? c.next with
      | some n => .ok (Header.mk tail (some n), c.advance 2)
      | none => .ok (⟨tail, none⟩, c.next)
    | none => do
      match ← indent? c with
      | some n =>
        match tail? c.next with
        | some tail => .ok (⟨tail, some n⟩, c.advance 2)
        | none => .ok (⟨.clip, some n⟩, c.next)
      | none => .ok (⟨.clip, none⟩, c)
  if c.isAt fun ch => ch ≠ ' ' && !isBreak ch then .error .badToken
  else
    let c := (c.skip (· = ' ')).skipComment
    match c.rest with
    | [] => .ok (header, c)
    | ch :: _ => if isBreak ch then .ok (header, c.next) else .error .badToken

/-- The line ends before the first line with content, and the farthest indentation among them. -/
def leading : Nat → Cursor → Nat → Text × Nat × Cursor
  | 0, c, most => ([], most, c)
  | fuel + 1, c, most =>
    match c.rest with
    | [] => ([], most, c)
    | ch :: _ =>
      if ch = ' ' then leading fuel c.next (max most c.next.column)
      else if isBreak ch then
        let (t, most, c) := leading fuel c.next most
        (breakText ch ++ t, most, c)
      else ([], most, c)

/-- Skips the indentation of a line as far as it counts. -/
def skipIndent (indent : Nat) (c : Cursor) : Cursor :=
  c.advance ((c.rest.takeWhile (· = ' ')).length.min (indent - c.column))

/-- The empty lines from a place on. -/
def emptyLines (indent : Nat) : Nat → Cursor → Text × Cursor
  | 0, c => ([], c)
  | fuel + 1, c =>
    let c := skipIndent indent c
    match c.rest with
    | [] => ([], c)
    | ch :: _ =>
      if isBreak ch then
        let (t, c) := emptyLines indent fuel c.next
        (breakText ch ++ t, c)
      else ([], c)

/-- The lines from a place on, with the empty lines before it; `isFolded` is the style. -/
def readLines (isFolded : Bool) (tail : Tail) (indent : Nat) :
    Nat → Text → Text → Cursor → Text × Cursor
  | 0, before, lineEnd, c => (lineEnd ++ before, c)
  | fuel + 1, before, lineEnd, c =>
    if c.column = indent && !c.rest.isEmpty then
      let startsBare := !c.isAt isBlank
      let (line, c) := c.span (!isBreak ·)
      let lineEnd := (c.peek?.map breakText).getD []
      let (empty, c) := emptyLines indent (c.rest.length + 1) c.next
      let goesOn := c.column = indent && !c.rest.isEmpty
      let joint :=
        if !goesOn then []
        else if isFolded && lineEnd = ['\n'] && startsBare && !c.isAt isBlank then
          if empty = [] then [' '] else []
        else lineEnd
      let (more, c) := readLines isFolded tail indent fuel empty (if goesOn then [] else lineEnd) c
      (before ++ line ++ joint ++ more, c)
    else
      ((if tail = .strip then [] else lineEnd) ++ (if tail = .keep then before else []), c)

/-- The scalar whose mark is at a place, inside a block with the given indentation. -/
def read (least : Nat) (c : Cursor) : Except Problem (Text × Cursor) := do
  let isFolded := c.peek? = some '>'
  let (header, c) ← readHeader c.next
  let least := max least 1
  let fuel := c.rest.length + 1
  let (indent, empty, c) := match header.indent with
    | some n =>
      let indent := least + n - 1
      let (empty, c) := emptyLines indent fuel c
      (indent, empty, c)
    | none =>
      let (empty, most, c) := leading fuel c 0
      (max least most, empty, c)
  .ok (readLines isFolded header.tail indent fuel empty [] c)

end HeaderBindings.Datum.Yaml.BlockScalar
