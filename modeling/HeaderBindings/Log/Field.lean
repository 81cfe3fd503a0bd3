import HeaderBindings.Decimal.Places
import HeaderBindings.Text.Quoted

/-!
# Fields of a line

A field shows one value of a record by a conversion, in a width and with a precision. Texts are cut
to the precision; integers have at least as many digits; other numbers have as many places. Then the
field is filled up with blanks, or with zeros after the sign of a number.
-/
namespace HeaderBindings.Log

/-- A value of a record. A constant has a text of its own but is neither a text nor a number. -/
inductive FieldValue
  | text (t : Text)
  | number (n : Nat)
  | constant (t : Text)
deriving DecidableEq, Repr

inductive Conversion
  | plain | quoted | escaped | character
  | decimal | octal | hex (isUpper : Bool)
  | fixed | scientific (isUpper : Bool) | general (isUpper : Bool)
  | percent
deriving DecidableEq, Repr

def Conversion.ofChar? : Char → Option Conversion
  | 's' => some .plain
  | 'r' => some .quoted
  | 'a' => some .escaped
  | 'c' => some .character
  | 'd' | 'i' | 'u' => some .decimal
  | 'o' => some .octal
  | 'x' => some (.hex false)
  | 'X' => some (.hex true)
  | 'f' | 'F' => some .fixed
  | 'e' => some (.scientific false)
  | 'E' => some (.scientific true)
  | 'g' => some (.general false)
  | 'G' => some (.general true)
  | '%' => some .percent
  | _ => none

/-- How a field is filled up: on which side, with zeros or blanks, and what stands in front of a
number. An alternate form marks the base of an integer and keeps the point of another number. -/
structure Flags where
  isLeft : Bool
  isZeroed : Bool
  hasSign : Bool
  hasBlank : Bool
  isAlternate : Bool
deriving DecidableEq, Repr

namespace Flags

def ofText (t : Text) : Flags :=
  ⟨t.contains '-', t.contains '0', t.contains '+', t.contains ' ', t.contains '#'⟩

/-- Fills a number up to a width; zeros stand between what is in front of it and its digits. -/
def fillNumber (f : Flags) (width : Nat) (front digits : Text) : Text :=
  let missing := width - (front.length + digits.length)
  if f.isLeft then front ++ digits ++ List.replicate missing ' '
  else if f.isZeroed then front ++ List.replicate missing '0' ++ digits
  else List.replicate missing ' ' ++ front ++ digits

/-- Fills a text up to a width. -/
def fillText (f : Flags) (width : Nat) (t : Text) : Text :=
  fillNumber { f with isZeroed := false } width [] t

/-- What stands for the sign of a number that is not negative. -/
def sign (f : Flags) : Text := if f.hasSign then ['+'] else if f.hasBlank then [' '] else []

/-- The mark of a base in the alternate form. -/
def baseMark (f : Flags) (c : Char) : Text := if f.isAlternate then ['0', c] else []

end Flags

namespace FieldValue

/-- The value as it is shown in texts. -/
def shown : FieldValue → Text
  | .text t => t
  | .number n => Text.ofNat n
  | .constant t => t

def quoted : FieldValue → Text
  | .text t => Text.quoted t
  | v => v.shown

def number? : FieldValue → Option Nat
  | .number n => some n
  | _ => none

/-- The character of a text of one, or the one with a given code point. -/
def character? : FieldValue → Option Char
  | .text [c] => some c
  | .number n => if n.isValidChar then some (Char.ofNat n) else none
  | _ => none

end FieldValue

/-- An integer with at least as many digits as the precision says. -/
def integerDigits (base : Nat) (precision : Option Nat) (n : Nat) : Text :=
  let digits := Nat.toDigits base n
  List.replicate (precision.getD 0 - digits.length) '0' ++ digits

def exponentMark (isUpper : Bool) : Char := if isUpper then 'E' else 'e'

/-- Numbers that are no integers have six places unless a precision is given. -/
def defaultPlaces : Nat := 6

/-- The text of a value, unless it is not of the kind that the conversion needs. -/
def Conversion.write? (c : Conversion) (f : Flags) (width : Nat) (precision : Option Nat)
    (v : FieldValue) : Option Text :=
  let cut (t : Text) : Text := match precision with
    | some n => t.take n
    | none => t
  let places := precision.getD defaultPlaces
  let number (front : Text) (digits : Nat → Text) : Option Text :=
    v.number?.map fun n => f.fillNumber width (f.sign ++ front) (digits n)
  match c with
  | .plain => some (f.fillText width (cut v.shown))
  | .quoted => some (f.fillText width (cut v.quoted))
  | .escaped => some (f.fillText width (cut (Text.escapeNonAscii v.quoted)))
  | .character => v.character?.map fun c => f.fillText width [c]
  | .decimal => number [] (integerDigits 10 precision)
  | .octal => number (f.baseMark 'o') (integerDigits 8 precision)
  | .hex false => number (f.baseMark 'x') (integerDigits 16 precision)
  | .hex true => number (f.baseMark 'X') fun n => (integerDigits 16 precision n).map Char.toUpper
  | .fixed => number [] fun n => Decimal.fixed n places f.isAlternate
  | .scientific u => number [] fun n => Decimal.scientific (exponentMark u) n places f.isAlternate
  | .general u => number [] fun n => Decimal.general (exponentMark u) n places f.isAlternate
  | .percent => some ['%']

end HeaderBindings.Log
