import HeaderBindings.Decimal.Binary64
import HeaderBindings.Text.Basic

/-!
# Natural numbers with decimal places

A natural number is written with a number of places after the point, with one digit in front of the
point and an exponent, or in the shorter of both ways with a number of significant digits. A point
without places is written only where it is asked for.
-/
namespace HeaderBindings.Decimal

/-- A point and the places after it. -/
def pointed (places : Text) (keepsPoint : Bool) : Text :=
  if places = [] then (if keepsPoint then ['.'] else []) else '.' :: places

/-- The number with `places` zeros after the point. -/
def fixed (n places : Nat) (keepsPoint : Bool) : Text :=
  Text.ofNat n ++ pointed (List.replicate places '0') keepsPoint

/-- The number rounded to `count` digits, a half going to the even digit, with the exponent of its
first digit. Zeros fill up missing digits. -/
def significant (n count : Nat) : Text × Nat :=
  let size := (Text.ofNat n).length
  if size ≤ count then (Text.ofNat n ++ List.replicate (count - size) '0', size - 1)
  else
    let digits := Text.ofNat (Binary.roundQuotient n (tenTo (size - count)))
    (digits.take count, size - 1 + (digits.length - count))

/-- An exponent has at least two digits. -/
def exponentPart (mark : Char) (e : Nat) : Text :=
  let digits := Text.ofNat e
  mark :: '+' :: List.replicate (2 - digits.length) '0' ++ digits

/-- The number with one digit in front of the point, `places` after it, and an exponent. -/
def scientific (mark : Char) (n places : Nat) (keepsPoint : Bool) : Text :=
  let (digits, e) := significant n (places + 1)
  digits.take 1 ++ pointed (digits.drop 1) keepsPoint ++ exponentPart mark e

def withoutLastZeros (digits : Text) : Text := Text.dropRightWhile (· = '0') digits

/-- The number with `count` significant digits, at least one: with an exponent when it has more
digits than that. Without a point to keep, zeros at the end of the places are dropped. -/
def general (mark : Char) (n count : Nat) (keepsPoint : Bool) : Text :=
  let count := max count 1
  let (digits, e) := significant n count
  let places (t : Text) : Text := if keepsPoint then t else withoutLastZeros t
  if count ≤ e then
    digits.take 1 ++ pointed (places (digits.drop 1)) keepsPoint ++ exponentPart mark e
  else digits.take (e + 1) ++ pointed (places (digits.drop (e + 1))) keepsPoint

end HeaderBindings.Decimal
