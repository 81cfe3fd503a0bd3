import HeaderBindings.Decimal.Power

/-!
# Binary64 numbers as integers times powers of two

A finite positive number of the format is `significand * 2 ^ exponent` with a significand below
2^53 and an exponent of at least -1074. This module rounds a ratio of two naturals to the nearest
such number, a tie going to the even significand, and packs and unpacks the 64 bits.
-/
namespace HeaderBindings.Decimal

/-- `significand * 2 ^ exponent`. -/
structure Binary where
  significand : Nat
  exponent : Int
deriving DecidableEq, Repr

namespace Binary

def leastExponent : Int := -1074

/-- The quotient rounded to the nearest integer, a tie going to the even one. -/
def roundQuotient (num den : Nat) : Nat :=
  let q := num / den
  let r := num % den
  if 2 * r < den ∨ (2 * r = den ∧ q % 2 = 0) then q else q + 1

/-- The ratio `num / den` in units of `2 ^ q`, as a new ratio. -/
def scaled (num den : Nat) (q : Int) : Nat × Nat :=
  if q < 0 then (num * twoTo (-q).toNat, den) else (num, den * twoTo q.toNat)

/-- The exponent of the unit in which a ratio has 53 binary places, or the least exponent. -/
def unitFor (num den : Nat) : Int :=
  let guess := (num.log2 : Int) - den.log2 - 53
  let s := scaled num den guess
  max leastExponent (if s.1 / s.2 < twoTo 53 then guess else guess + 1)

/-- The nearest number to the ratio of two naturals. -/
def nearest (num den : Nat) : Binary :=
  let q := unitFor num den
  let s := scaled num den q
  ⟨roundQuotient s.1 s.2, q⟩

/-- The bits of the number, with the bits of infinity when it is too large. -/
def toBits (b : Binary) : Nat :=
  let (m, q) := if b.significand = twoTo 53 then (twoTo 52, b.exponent + 1)
    else (b.significand, b.exponent)
  if m < twoTo 52 then m
  else if q > 971 then 2047 * twoTo 52
  else (q + 1075).toNat * twoTo 52 + (m - twoTo 52)

/-- The number that finite bits without a sign stand for. -/
def ofBits (bits : Nat) : Binary :=
  let field : Nat := bits / twoTo 52
  let low : Nat := bits % twoTo 52
  if field = 0 then ⟨low, leastExponent⟩ else ⟨low + twoTo 52, (field : Int) - 1075⟩

end Binary

/-- The floating-point number with the given bits. -/
def floatOfBits (bits : Nat) : Float := Float.ofBits (UInt64.ofNat bits)

/-- The nearest floating-point number to a natural number. -/
def floatOfNat (n : Nat) : Float :=
  if n = 0 then 0.0 else floatOfBits (Binary.nearest n 1).toBits

/-- The nearest floating-point number to `m * 10 ^ e`. Above 10^400 it is infinity and below
2^(-1100) zero, so the powers that are computed stay small. -/
def floatOfDecimal (m : Nat) (e : Int) : Float :=
  if m = 0 then 0.0
  else if e > 400 then floatOfBits (2047 * twoTo 52)
  else if (m.log2 : Int) + 1 + 3 * e < -1100 then 0.0
  else if e < 0 then floatOfBits (Binary.nearest m (tenTo (-e).toNat)).toBits
  else floatOfBits (Binary.nearest (m * tenTo e.toNat) 1).toBits

/-- Sign and magnitude bits of a floating-point number. -/
def bitsOfFloat (x : Float) : Bool × Nat :=
  let bits := x.toBits.toNat
  (bits / twoTo 63 = 1, bits % twoTo 63)

/-- The integer part of a finite number, and whether there is nothing after it. -/
def integerPart (x : Float) : Int × Bool :=
  let (negative, bits) := bitsOfFloat x
  let b := Binary.ofBits bits
  let num := b.significand * twoTo b.exponent.toNat
  let den := twoTo (-b.exponent).toNat
  let n : Int := num / den
  (if negative then -n else n, num % den = 0)

end HeaderBindings.Decimal
