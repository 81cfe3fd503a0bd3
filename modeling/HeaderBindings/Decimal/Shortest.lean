import HeaderBindings.Decimal.Binary64

/-!
# Shortest decimals that read back

The numbers that round to a given binary64 number form an interval around it. The shortest decimal
is a multiple of the largest power of ten that has a multiple in this interval, and of the
multiples next to the number the nearer one is taken; a tie goes to the even multiple.
-/
namespace HeaderBindings.Decimal

/-- `digits * 10 ^ exponent`. -/
structure Shortest where
  digits : Nat
  exponent : Int
deriving DecidableEq, Repr

namespace Shortest

/-- A binary number and the ends of its rounding interval, all in units of a quarter of its last
place. The lower half is half as wide where the exponent drops. -/
structure Interval where
  low : Nat
  value : Nat
  high : Nat
  exponent : Int
  closed : Bool

def Interval.around (b : Binary) : Interval where
  low := if b.significand = twoTo 52 ∧ b.exponent > Binary.leastExponent
    then 4 * b.significand - 1 else 4 * b.significand - 2
  value := 4 * b.significand
  high := 4 * b.significand + 2
  exponent := b.exponent - 2
  closed := b.significand % 2 = 0

/-- Factors that bring multiples of `10 ^ k` and of `2 ^ q` to a common unit. -/
def commonUnits (k q : Int) : Nat × Nat :=
  (tenTo k.toNat * twoTo (-q).toNat, tenTo (-k).toNat * twoTo q.toNat)

def Interval.contains (i : Interval) (ten two c : Nat) : Bool :=
  if i.closed then i.low * two ≤ c * ten && c * ten ≤ i.high * two
  else i.low * two < c * ten && c * ten < i.high * two

/-- The multiple of `10 ^ k` in the interval that is nearest to the value, if one of the value's
two neighbours is in the interval. -/
def onGrid? (i : Interval) (k : Int) : Option Nat :=
  let (ten, two) := commonUnits k i.exponent
  let value := i.value * two
  let c := value / ten
  let below := c > 0 && i.contains ten two c
  let above := i.contains ten two (c + 1)
  match below, above with
  | false, false => none
  | true, false => some c
  | false, true => some (c + 1)
  | true, true =>
    let r := value % ten
    some (if 2 * r < ten ∨ (2 * r = ten ∧ c % 2 = 0) then c else c + 1)

/-- The first grid with a hit among `10 ^ k`, `10 ^ (k - 1)`, and so on. -/
def search (i : Interval) : Nat → Int → Shortest
  | 0, k => ⟨i.value, k⟩
  | n + 1, k =>
    match onGrid? i k with
    | some c => ⟨c, k⟩
    | none => search i n (k - 1)

/-- The shortest decimal of a positive number. Its exponent is at most that of the first power of
ten above twice the number, and seventeen digits always suffice. -/
def ofBinary (b : Binary) : Shortest :=
  search (Interval.around b) 40 (((b.significand.log2 : Int) + 2 + b.exponent) * 3 / 10 + 3)

end Shortest
end HeaderBindings.Decimal
