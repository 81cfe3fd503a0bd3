import HeaderBindings.Log.Field
import HeaderBindings.Text.Word

/-!
# Line formats

A line format is a text with fields such as `%(levelname)s` or `%(name)-12s`: a percent sign, a key
in parentheses, flags, a width, a precision and a conversion. A star instead of a width or precision
takes the value of the field for it. A field without a key shows the value of the one before it if
that has not been shown. Two percent signs stand for one. A format in which no field can be found is
refused; a line that a format cannot be filled in for is not written.
-/
namespace HeaderBindings.Log

open Text

/-- A width or a precision. -/
inductive Amount
  | absent
  | given (n : Nat)
  | taken
deriving DecidableEq, Repr

structure Field where
  key : Option Text
  flags : Flags
  width : Amount
  precision : Amount
  conversion : Conversion
deriving DecidableEq, Repr

inductive Piece
  | literal (c : Char)
  | field (f : Field)
  | broken
deriving DecidableEq, Repr

abbrev Format := List Piece

namespace Format

/-! ### Reading -/

def isFlag (c : Char) : Bool := "#0+ -".toList.contains c

def number (t : Text) : Nat := t.foldl (fun n c => n * 10 + (c.toNat - 48)) 0

def readAmount : Text → Amount × Text
  | '*' :: r => (.taken, r)
  | r =>
    match r.takeWhile Char.isDigit with
    | [] => (.absent, r)
    | digits => (.given (number digits), r.dropWhile Char.isDigit)

/-- A point without digits stands for a precision of zero. -/
def readPrecision : Text → Amount × Text
  | '.' :: r =>
    match readAmount r with
    | (.absent, r) => (.given 0, r)
    | p => p
  | r => (.absent, r)

/-- The text up to the parenthesis that closes a number of open ones, and what follows it. -/
def closeKey? : Nat → Text → Option (Text × Text)
  | _, [] => none
  | depth, c :: r =>
    if c = ')' ∧ depth = 0 then some ([], r)
    else
      let depth := if c = ')' then depth - 1 else if c = '(' then depth + 1 else depth
      (closeKey? depth r).map fun p => (c :: p.1, p.2)

/-- A key in parentheses, if the text starts with one; there is no reading when it is not closed. -/
def readKey? : Text → Option (Option Text × Text)
  | '(' :: r => (closeKey? 0 r).map fun p => (some p.1, p.2)
  | r => some (none, r)

/-- A field without its percent sign, and what follows it. -/
def readField? (t : Text) : Option (Field × Text) := do
  let (key, r) ← readKey? t
  let flags := r.takeWhile isFlag
  let (width, r) := readAmount (r.dropWhile isFlag)
  let (precision, r) := readPrecision r
  let r := match r with
    | c :: s => if c = 'h' ∨ c = 'l' ∨ c = 'L' then s else c :: s
    | [] => []
  match r with
  | c :: r => (Conversion.ofChar? c).map fun k => (⟨key, Flags.ofText flags, width, precision, k⟩, r)
  | [] => none

/-- The pieces of a format. Nothing is read after a broken one. -/
def readFrom : Nat → Text → Format
  | 0, _ => []
  | _ + 1, [] => []
  | fuel + 1, c :: r =>
    if c = '%' then
      match readField? r with
      | some (f, r) => .field f :: readFrom fuel r
      | none => [.broken]
    else .literal c :: readFrom fuel r

def read (t : Text) : Format := readFrom (t.length + 1) t

/-! ### Finding a field -/

/-- The conversion letters count in either case, with those that have another letter as theirs. -/
def isConversion (c : Char) : Bool :=
  "diouxefgcrsa%".toList.contains c.toLower || ['\u0130', '\u0131', '\u017F'].contains c

/-- What follows a star or digits of any script, if there are some. -/
def dropAmount : Text → Text
  | '*' :: r => r
  | r => r.dropWhile isDecimal

/-- Whether a text starts with a field whose key is a word. -/
def startsWithField (t : Text) : Bool :=
  match (dropPrefix? ['%', '('] t).bind (cutAt? ')') with
  | none => false
  | some (key, r) =>
    let r := dropAmount (r.dropWhile isFlag)
    let r := match r with
      | '.' :: s => if dropAmount s = s then r else dropAmount s
      | r => r
    key ≠ [] && key.all isWord && (r.head?.map isConversion).getD false

/-- Whether a field can be found anywhere in a text. -/
def hasField : Text → Bool
  | [] => false
  | c :: r => startsWithField (c :: r) || hasField r

/-! ### Writing -/

/-- A width or a precision, and the value that is left for the field. -/
def Amount.resolve : Amount → Option FieldValue → Option (Option Nat × Option FieldValue)
  | .absent, v => some (none, v)
  | .given n, v => some (some n, v)
  | .taken, v => (v.bind FieldValue.number?).map fun n => (some n, none)

/-- The text of a field and the value that is left after it. -/
def writeField? (value? : Text → Option FieldValue) (left : Option FieldValue) (f : Field) :
    Option (Text × Option FieldValue) := do
  let left ← match f.key with
    | some key => (value? key).map some
    | none => some left
  let (width, left) ← Amount.resolve f.width left
  let (precision, left) ← Amount.resolve f.precision left
  if f.conversion = .percent then some (['%'], left)
  else
    let t ← f.conversion.write? f.flags (width.getD 0) precision (← left)
    some (t, none)

/-- The line of some values, unless a field cannot be written. -/
def writeFrom (value? : Text → Option FieldValue) : Option FieldValue → Format → Option Text
  | _, [] => some []
  | left, .literal c :: ps => (writeFrom value? left ps).map (c :: ·)
  | _, .broken :: _ => none
  | left, .field f :: ps => do
    let (t, left) ← writeField? value? left f
    let rest ← writeFrom value? left ps
    some (t ++ rest)

def write? (f : Format) (value? : Text → Option FieldValue) : Option Text :=
  writeFrom value? none f

def standard : Format := read "%(levelname)s:%(name)s:%(message)s".toList

def bare : Format := read "%(message)s".toList

/-- What is said of a format without fields. -/
def invalidMessage (t : Text) : Text :=
  "Invalid format '".toList ++ t ++ "' for '%' style".toList

end Format
end HeaderBindings.Log
