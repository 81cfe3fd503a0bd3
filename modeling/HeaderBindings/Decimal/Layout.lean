import HeaderBindings.Decimal.Shortest
import HeaderBindings.Text.Basic

/-!
# Writing floating-point numbers

The shortest digits that read back are laid out either in full, with at least one place after the
point, or with an exponent.
-/
namespace HeaderBindings.Decimal

/-- Which decimal exponents are written in full, and the least number of exponent digits. -/
structure Layout where
  leastFull : Int
  firstShort : Int
  exponentDigits : Nat

/-- Numbers from 0.0001 up to 10^16 are written in full; an exponent has at least two digits. -/
def Layout.standard : Layout := ⟨-4, 16, 2⟩

/-- Digits with a point after the first `n` of them; zeros fill both sides. -/
def placePoint (digits : Text) (n : Int) : Text :=
  if n ≤ 0 then ['0', '.'] ++ List.replicate (-n).toNat '0' ++ digits
  else if digits.length ≤ n.toNat then
    digits ++ List.replicate (n.toNat - digits.length) '0' ++ ['.', '0']
  else digits.take n.toNat ++ '.' :: digits.drop n.toNat

def Layout.exponentText (l : Layout) (e : Int) : Text :=
  let digits := Text.ofNat e.natAbs
  'e' :: (if e < 0 then '-' else '+') ::
    List.replicate (l.exponentDigits - digits.length) '0' ++ digits

/-- The text of a positive decimal. -/
def Layout.write (l : Layout) (d : Shortest) : Text :=
  let digits := Text.ofNat d.digits
  let e := d.exponent + digits.length - 1
  if l.leastFull ≤ e ∧ e < l.firstShort then placePoint digits (e + 1)
  else match digits with
    | [] => []
    | [c] => c :: l.exponentText e
    | c :: rest => c :: '.' :: rest ++ l.exponentText e

/-- The text of a floating-point number; zero keeps its sign. -/
def Layout.writeFloat (l : Layout) (x : Float) : Text :=
  let (negative, bits) := bitsOfFloat x
  let sign := if negative then ['-'] else []
  if bits > 2047 * twoTo 52 then "nan".toList
  else if bits = 2047 * twoTo 52 then sign ++ "inf".toList
  else if bits = 0 then sign ++ "0.0".toList
  else sign ++ l.write (Shortest.ofBinary (Binary.ofBits bits))

end HeaderBindings.Decimal
