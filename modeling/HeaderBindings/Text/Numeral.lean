import HeaderBindings.Decimal.Power
import HeaderBindings.Text.Blank
import HeaderBindings.Text.Quoted

/-!
# Reading whole numbers

A numeral may have blanks around it and a sign in front; its digits may be of any script, with
single underscores between two of them. At most 4300 digits are read, and a number of more digits
has no text.
-/
namespace HeaderBindings.Text

def maxDigits : Nat := 4300

inductive NumeralError
  | malformed (text : Text)
  | tooLong (digits : Nat)
deriving DecidableEq, Repr

/-- Of a text that is no numeral, 200 characters are shown. -/
def NumeralError.message : NumeralError → String
  | .malformed t => "invalid literal for int() with base 10: " ++ String.ofList ((quoted t).take 200)
  | .tooLong n =>
    s!"Exceeds the limit (4300 digits) for integer string conversion: value has {n} digits; " ++
      "use sys.set_int_max_str_digits() to increase the limit"

/-- Whether a number has few enough digits to be written. -/
def isWritable (n : Int) : Bool := n.natAbs < Decimal.tenTo maxDigits

/-- What is said of a number without a text. -/
def unwritableMessage : String :=
  "Exceeds the limit (4300 digits) for integer string conversion; " ++
    "use sys.set_int_max_str_digits() to increase the limit"

/-- Blanks around a numeral: below U+007F only the space and the five layout characters. -/
def isNumeralBlank (c : Char) : Bool :=
  if c.toNat < 127 then c = ' ' || (9 ≤ c.toNat && c.toNat ≤ 13) else isBlank c

def splitSign : Text → Bool × Text
  | '-' :: r => (true, r)
  | '+' :: r => (false, r)
  | r => (false, r)

def readInt? (t : Text) : Except NumeralError Int :=
  let (negative, body) := splitSign (t.dropWhile isNumeralBlank)
  match digitGroups? digitValue? body with
  | none => .error (.malformed t)
  | some (digits, rest) =>
    if digits.length > maxDigits then .error (.tooLong digits.length)
    else if digits = [] || !(rest.all isNumeralBlank) then .error (.malformed t)
    else
      let n := ofDigits 10 digits
      .ok (if negative then -(n : Int) else n)

end HeaderBindings.Text
