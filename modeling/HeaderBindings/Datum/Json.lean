import HeaderBindings.Datum.Basic
import HeaderBindings.Text.Numeral

/-!
# Reading JSON

A document is one value with blanks around it. An integer has neither point nor exponent. The words
`NaN`, `Infinity` and `-Infinity` are numbers. Lists and mappings stand inside one another up to a
limit. Where a document goes wrong is told by how much of it is left there.
-/
namespace HeaderBindings.Datum.Json

inductive Complaint
  | byteOrderMark
  | noValue
  | noName
  | noColon
  | noComma
  | extraData
  | openString
  | controlCharacter
  | badEscape
  | badCodePoint
deriving DecidableEq, Repr

def Complaint.text : Complaint → String
  | .byteOrderMark => "Unexpected UTF-8 BOM (decode using utf-8-sig)"
  | .noValue => "Expecting value"
  | .noName => "Expecting property name enclosed in double quotes"
  | .noColon => "Expecting ':' delimiter"
  | .noComma => "Expecting ',' delimiter"
  | .extraData => "Extra data"
  | .openString => "Unterminated string starting at"
  | .controlCharacter => "Invalid control character at"
  | .badEscape => "Invalid \\escape"
  | .badCodePoint => "Invalid \\uXXXX escape"

/-- What holds other values. -/
inductive Collection
  | array | object
deriving DecidableEq, Repr

def Collection.label : Collection → String
  | .array => "array"
  | .object => "object"

/-- Why a text is no document: something is wrong when so many characters are left, an integer has
too many digits, or a collection stands too deep inside others. -/
inductive Failure
  | malformed (complaint : Complaint) (left : Nat)
  | tooLong (digits : Nat)
  | tooDeep (collection : Collection)
deriving DecidableEq, Repr

/-- What is said of a text that is no document. -/
def Failure.message (t : Text) : Failure → String
  | .malformed complaint left =>
    let before := t.take (t.length - left)
    let line := before.count '\n' + 1
    let column := (before.reverse.takeWhile (· ≠ '\n')).length + 1
    complaint.text ++ ": line " ++ toString line ++ " column " ++ toString column ++
      " (char " ++ toString before.length ++ ")"
  | .tooLong n => (Text.NumeralError.tooLong n).message
  | .tooDeep collection =>
    "maximum recursion depth exceeded while decoding a JSON " ++ collection.label ++
      " from a unicode string"

/-- A complaint about the beginning of what is left. -/
def complain {α : Type} (complaint : Complaint) (left : Text) : Except Failure α :=
  .error (.malformed complaint left.length)

def isSpace (c : Char) : Bool := c = ' ' || c = '\t' || c = '\n' || c = '\r'

def skipSpace (t : Text) : Text := t.dropWhile isSpace

/-- The code point of four hexadecimal digits, and of a second escape when the two form a pair. -/
def readUnicode? : Text → Option (CodePoint × Text)
  | a :: b :: c :: d :: r => do
    let high ← number a b c d
    match r with
    | '\\' :: 'u' :: e :: f :: g :: h :: s =>
      match number e f g h with
      | some low =>
        if 0xD800 ≤ high ∧ high < 0xDC00 ∧ 0xDC00 ≤ low ∧ low < 0xE000 then
          some (.ofNat (0x10000 + (high - 0xD800) * 0x400 + (low - 0xDC00)), s)
        else some (.ofNat high, r)
      | none => some (.ofNat high, r)
    | r => some (.ofNat high, r)
  | _ => none
where
  number (a b c d : Char) : Option Nat := do
    some (Text.ofDigits 16
      [← Text.hexValue? a, ← Text.hexValue? b, ← Text.hexValue? c, ← Text.hexValue? d])

def escapeTable : List (Char × Char) := [
    ('"', '"'), ('\\', '\\'), ('/', '/'), ('b', '\x08'), ('f', '\x0c'), ('n', '\n'), ('r', '\r'),
    ('t', '\t')]

/-- What stands before the closing quote; `start` is the text from the opening one. An escape by
code point is only read if more text follows it, and a surrogate that forms no pair stays one. -/
def readString (start : Text) : Nat → Text → Except Failure (WideText × Text)
  | 0, _ => complain .openString start
  | _ + 1, [] => complain .openString start
  | fuel + 1, c :: r =>
    if c = '"' then .ok ([], r)
    else if c = '\\' then
      match r with
      | 'u' :: s =>
        match readUnicode? s with
        | some (d, s) =>
          if s = [] then complain .badCodePoint (r.drop (r.length - 5))
          else (readString start fuel s).map fun p => (d :: p.1, p.2)
        | none => complain .badCodePoint r
      | d :: s =>
        match escapeTable.find? (·.1 = d) with
        | some (_, e) => (readString start fuel s).map fun p => (.char e :: p.1, p.2)
        | none => complain .badEscape (c :: r)
      | [] => complain .openString start
    else if c.toNat < 32 then complain .controlCharacter (c :: r)
    else (readString start fuel r).map fun p => (.char c :: p.1, p.2)

def digits (t : Text) : Text × Text := (t.takeWhile Char.isDigit, t.dropWhile Char.isDigit)

def value (ds : Text) : Nat := Text.ofDigits 10 (ds.map fun c => c.toNat - 48)

/-- The number at the start of a text, given its sign and the text from the sign on. A point or an
exponent mark that no digit follows ends it. -/
def readNumber (start : Text) (negative : Bool) (t : Text) : Except Failure (Datum × Text) :=
  let (whole, r) := match t with
    | '0' :: r => (['0'], r)
    | t => digits t
  if whole = [] then complain .noValue start
  else
    let (places, r) := match r with
      | '.' :: s => if (digits s).1 = [] then ([], r) else digits s
      | r => ([], r)
    let exponent? := exponent r
    if places = [] ∧ exponent?.isNone then
      if whole.length > Text.maxDigits then .error (.tooLong whole.length)
      else .ok (.int (if negative then -(value whole : Int) else value whole), r)
    else
      let (e, r) := exponent?.getD (0, r)
      let x := Decimal.floatOfDecimal (value (whole ++ places)) (e - places.length)
      .ok (.float (if negative then -x else x), r)
where
  exponent : Text → Option (Int × Text)
    | c :: r =>
      if c = 'e' ∨ c = 'E' then
        let (sign, s) := match r with
          | '-' :: s => ((-1 : Int), s)
          | '+' :: s => (1, s)
          | s => (1, s)
        if (digits s).1 = [] then none else some (sign * value (digits s).1, (digits s).2)
      else none
    | [] => none

def words : List (String × Datum) := [
    ("null", .null), ("true", .bool true), ("false", .bool false),
    ("NaN", .float (0.0 / 0.0)), ("Infinity", .float (1.0 / 0.0)),
    ("-Infinity", .float (-1.0 / 0.0))]

/-- So many collections may stand inside one another. -/
def maxDepth : Nat := 987

mutual

/-- The value at the start of a text, in which `room` collections may stand inside one another. -/
def readValue (room : Nat) : Nat → Text → Except Failure (Datum × Text)
  | 0, t => complain .noValue t
  | fuel + 1, t =>
    match t with
    | '"' :: r => (readString t (r.length + 1) r).map fun p => (ofWide p.1, p.2)
    | '[' :: r =>
      match room, skipSpace r with
      | 0, _ => .error (.tooDeep .array)
      | _ + 1, ']' :: r => .ok (.list [], r)
      | room + 1, r => (readItems room fuel r).map fun p => (.list p.1, p.2)
    | '\x7b' :: r =>
      match room, skipSpace r with
      | 0, _ => .error (.tooDeep .object)
      | _ + 1, '\x7d' :: r => .ok (.map [], r)
      | room + 1, r => (readMembers room fuel [] r).map fun p => (.map p.1, p.2)
    | t =>
      match words.findSome? fun p => (Text.dropPrefix? p.1.toList t).map fun r => (p.2, r) with
      | some p => .ok p
      | none =>
        match t with
        | '-' :: r => readNumber t true r
        | t => readNumber t false t

/-- One or more items up to the closing bracket. -/
def readItems (room : Nat) : Nat → Text → Except Failure (List Datum × Text)
  | 0, t => complain .noValue t
  | fuel + 1, t => do
    let (d, r) ← readValue room fuel t
    match skipSpace r with
    | ']' :: r => .ok ([d], r)
    | ',' :: r => do
      let (ds, r) ← readItems room fuel (skipSpace r)
      .ok (d :: ds, r)
    | r => complain .noComma r

/-- One or more members up to the closing brace, added to those before. -/
def readMembers (room : Nat) : Nat → List (Datum × Datum) → Text →
    Except Failure (List (Datum × Datum) × Text)
  | 0, _, t => complain .noName t
  | fuel + 1, before, t =>
    match t with
    | '"' :: r => do
      let (key, r) ← readString t (r.length + 1) r
      match skipSpace r with
      | ':' :: r => do
        let (d, r) ← readValue room fuel (skipSpace r)
        match skipSpace r with
        | '\x7d' :: r => .ok (put (ofWide key) d before, r)
        | ',' :: r => readMembers room fuel (put (ofWide key) d before) (skipSpace r)
        | r => complain .noComma r
      | r => complain .noColon r
    | t => complain .noName t

end

/-- The value of a whole document. -/
def read (t : Text) : Except Failure Datum := do
  if t.head? = some '\uFEFF' then complain .byteOrderMark t
  let (d, r) ← readValue maxDepth (2 * t.length + 2) (skipSpace t)
  if (skipSpace r).isEmpty then .ok d else complain .extraData (skipSpace r)

end HeaderBindings.Datum.Json
