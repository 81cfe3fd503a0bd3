import HeaderBindings.Decimal.Binary64
import Mathlib.Algebra.Order.Field.Rat
import Mathlib.Algebra.Order.Ring.Abs
import Mathlib.Order.Monotone.Basic
import Mathlib.Tactic.FieldSimp
import Mathlib.Tactic.Linarith
import Mathlib.Tactic.Ring

/-!
# Numbers in the order of their bits

Consecutive bits stand for neighbouring numbers, which are a unit of the last place apart, so bits
are ordered as the numbers they stand for. The bits of infinity continue this order with `2 ^ 1024`:
a number is too large for the format exactly if its rounding in the endless order gets there.
-/
namespace HeaderBindings.Decimal
namespace Binary

/-- The number that is meant. -/
def value (b : Binary) : ℚ := b.significand * 2 ^ b.exponent

/-- The number that bits without a sign stand for. -/
def numberAt (n : ℕ) : ℚ := (ofBits n).value

def infiniteBits : ℕ := 2047 * twoTo 52

/-! ### Significands and exponents -/

/-- Bits are a field for the exponent over the low places of the significand. -/
theorem ofBits_field (f : ℕ) {l : ℕ} (hl : l < twoTo 52) : ofBits (f * twoTo 52 + l) =
    if f = 0 then ⟨l, leastExponent⟩ else ⟨l + twoTo 52, (f : ℤ) - 1075⟩ := by
  have hfield : (f * twoTo 52 + l) / twoTo 52 = f := by
    rw [Nat.mul_comm, Nat.mul_add_div (twoTo_pos 52), Nat.div_eq_of_lt hl, Nat.add_zero]
  have hlow : (f * twoTo 52 + l) % twoTo 52 = l := by
    rw [Nat.mul_comm, Nat.mul_add_mod, Nat.mod_eq_of_lt hl]
  simp only [ofBits, hfield, hlow]

/-- A significand has 53 places over the unit `2 ^ (e - 1074)`, or fewer over the least unit. The
one after the last is allowed: it is the first of the next exponent. -/
structure Fits (e m : ℕ) : Prop where
  le : m ≤ twoTo 53
  full : e ≠ 0 → twoTo 52 ≤ m

theorem Fits.numberAt_eq {e m : ℕ} (h : Fits e m) :
    numberAt (e * twoTo 52 + m) = m * 2 ^ ((e : ℤ) - 1074) := by
  have hle := h.le
  have hfull := h.full
  have h53 : twoTo 53 = 2 * twoTo 52 := rfl
  rcases lt_or_ge m (twoTo 52) with hm | hm
  · have he : e = 0 := by
      by_contra he
      exact absurd (hfull he) (not_le.mpr hm)
    subst he
    rw [numberAt, ofBits_field 0 hm, if_pos rfl]
    rfl
  rcases lt_or_eq_of_le hle with hlt | rfl
  · -- the leading place is the last one of the field
    have hn : e * twoTo 52 + m = (e + 1) * twoTo 52 + (m - twoTo 52) := by
      rw [Nat.succ_mul]
      omega
    rw [numberAt, hn, ofBits_field (e + 1) (by omega), if_neg e.succ_ne_zero, value,
      Nat.sub_add_cancel hm]
    congr 2
    push_cast
    ring
  · have hn : e * twoTo 52 + twoTo 53 = (e + 2) * twoTo 52 + 0 := by
      rw [h53]
      ring
    have hexp : ((e + 2 : ℕ) : ℤ) - 1075 = (e : ℤ) - 1074 + 1 := by
      push_cast
      ring
    rw [numberAt, hn, ofBits_field (e + 2) (twoTo_pos 52), if_neg (Nat.succ_ne_zero _), value]
    dsimp only
    rw [hexp, zpow_add_one₀ two_ne_zero, h53]
    push_cast
    ring

theorem exists_fits (n : ℕ) : ∃ e m, Fits e m ∧ m < twoTo 53 ∧ n = e * twoTo 52 + m := by
  have h53 : twoTo 53 = 2 * twoTo 52 := rfl
  have hlow := Nat.mod_lt n (twoTo_pos 52)
  have hsplit := Nat.div_add_mod' n (twoTo 52)
  cases hf : n / twoTo 52 with
  | zero =>
    rw [hf] at hsplit
    exact ⟨0, n % twoTo 52, ⟨by omega, fun h => absurd rfl h⟩, by omega, hsplit.symm⟩
  | succ f =>
    rw [hf, Nat.succ_mul] at hsplit
    exact ⟨f, twoTo 52 + n % twoTo 52, ⟨by omega, fun _ => by omega⟩, by omega, by omega⟩

theorem numberAt_zero : numberAt 0 = 0 := by
  have h : Fits 0 0 := ⟨Nat.zero_le _, fun h => absurd rfl h⟩
  simpa using h.numberAt_eq

/-- Neighbours are a unit of the last place apart. -/
theorem strictMono_numberAt : StrictMono numberAt := by
  refine strictMono_nat_of_lt_succ fun n => ?_
  obtain ⟨e, m, h, hm, rfl⟩ := exists_fits n
  have hnext : Fits e (m + 1) := ⟨hm, fun he => (h.full he).trans m.le_succ⟩
  rw [Nat.add_assoc, h.numberAt_eq, hnext.numberAt_eq]
  have hunit : (0 : ℚ) < 2 ^ ((e : ℤ) - 1074) := zpow_pos two_pos _
  push_cast
  linarith

theorem numberAt_nonneg (n : ℕ) : 0 ≤ numberAt n := by
  rw [← numberAt_zero]
  exact strictMono_numberAt.monotone n.zero_le

/-- The bits of infinity stand in for all that is too large. -/
theorem Fits.toBits_eq {e m : ℕ} (h : Fits e m) :
    toBits ⟨m, (e : ℤ) - 1074⟩ = min (e * twoTo 52 + m) infiniteBits := by
  have hle := h.le
  have hfull := h.full
  have h53 : twoTo 53 = 2 * twoTo 52 := rfl
  have hfew : ∀ k, e ≤ k → e * twoTo 52 ≤ k * twoTo 52 := fun k => Nat.mul_le_mul_right _
  have hmany : ∀ k, k ≤ e → k * twoTo 52 ≤ e * twoTo 52 := fun k => Nat.mul_le_mul_right _
  rw [toBits, infiniteBits]
  dsimp only
  by_cases hm : m = twoTo 53
  · subst hm
    simp only [↓reduceIte, lt_irrefl]
    split_ifs with hq
    · have := hmany 2045 (by omega)
      omega
    · have := hfew 2044 (by omega)
      have hfield : ((e : ℤ) - 1074 + 1 + 1075).toNat = e + 2 := by omega
      rw [hfield, Nat.add_mul]
      omega
  · simp only [hm, ↓reduceIte]
    split_ifs with hlow hq
    · have he : e = 0 := by
        by_contra he
        exact absurd (hfull he) (not_le.mpr hlow)
      subst he
      omega
    · have := hmany 2046 (by omega)
      omega
    · have := hfew 2045 (by omega)
      have hfield : ((e : ℤ) - 1074 + 1075).toNat = e + 1 := by omega
      rw [hfield, Nat.succ_mul]
      omega

/-! ### Rounding -/

/-- No bits stand for a number nearer to `v`, and where others stand for one as near these are
even. -/
structure IsRounded (v : ℚ) (n : ℕ) : Prop where
  nearest : ∀ k, |numberAt n - v| ≤ |numberAt k - v|
  even : ∀ k ≠ n, |numberAt k - v| = |numberAt n - v| → Even n

/-- Neither of two neighbours around a number is beaten by any but the other. -/
theorem neighbour_or_lt {v : ℚ} {n : ℕ} (hl : numberAt n ≤ v) (hu : v < numberAt (n + 1)) (k : ℕ) :
    k = n ∨ k = n + 1 ∨ |numberAt n - v| < |numberAt k - v| ∨
      |numberAt (n + 1) - v| < |numberAt k - v| := by
  rcases lt_trichotomy k n with hk | rfl | hk
  · have hlt := strictMono_numberAt hk
    refine .inr (.inr (.inl ?_))
    rw [abs_of_nonpos (by linarith), abs_of_nonpos (by linarith)]
    linarith
  · exact .inl rfl
  · rcases Nat.eq_or_lt_of_le (Nat.succ_le_of_lt hk) with rfl | hk
    · exact .inr (.inl rfl)
    · have hlt := strictMono_numberAt hk
      refine .inr (.inr (.inr ?_))
      rw [abs_of_nonneg (by linarith), abs_of_nonneg (by linarith)]
      linarith

/-- A number is rounded to the nearer one of its two neighbours. -/
theorem isRounded_of_neighbours {v : ℚ} {n r s : ℕ} (hl : numberAt n ≤ v)
    (hu : v < numberAt (n + 1)) (hrs : r = n ∧ s = n + 1 ∨ r = n + 1 ∧ s = n)
    (hd : |numberAt r - v| ≤ |numberAt s - v|)
    (he : |numberAt s - v| = |numberAt r - v| → Even r) : IsRounded v r := by
  have hall : ∀ k, k = r ∨ k = s ∨ |numberAt r - v| < |numberAt k - v| := by
    intro k
    obtain ⟨rfl, rfl⟩ | ⟨rfl, rfl⟩ := hrs
    · rcases neighbour_or_lt hl hu k with h | h | h | h
      · exact .inl h
      · exact .inr (.inl h)
      · exact .inr (.inr h)
      · exact .inr (.inr (hd.trans_lt h))
    · rcases neighbour_or_lt hl hu k with h | h | h | h
      · exact .inr (.inl h)
      · exact .inl h
      · exact .inr (.inr (hd.trans_lt h))
      · exact .inr (.inr h)
  refine ⟨fun k => ?_, fun k hk hv => ?_⟩
  · obtain rfl | rfl | h := hall k
    · exact le_rfl
    · exact hd
    · exact h.le
  · obtain rfl | rfl | h := hall k
    · exact absurd rfl hk
    · exact he hv
    · exact absurd hv h.ne'

/-! ### Numbers that are too large -/

/-- Half way between the largest number and the one that would come after it. -/
def overflow : ℚ := 2 ^ 1024 - 2 ^ 970

theorem one_le_overflow : 1 ≤ overflow :=
  calc (1 : ℚ) ≤ 2 ^ 970 := one_le_pow₀ one_le_two
    _ = 2 ^ 971 - 2 ^ 970 := by rw [pow_succ _ 970, mul_two, add_sub_cancel_right]
    _ ≤ 2 ^ 1024 - 2 ^ 970 := sub_le_sub_right (pow_le_pow_right₀ one_le_two (by decide)) _

theorem numberAt_infiniteBits : numberAt infiniteBits = 2 ^ 1024 := by
  have h : Fits 2045 (twoTo 53) := ⟨le_rfl, fun _ => by decide⟩
  have hcast : ((twoTo 53 : ℕ) : ℚ) = 2 ^ 53 := by rw [twoTo, Nat.pow_eq]; norm_cast
  have hexp : ((2045 : ℕ) : ℤ) - 1074 = (971 : ℕ) := by decide
  have hbits : infiniteBits = 2045 * twoTo 52 + twoTo 53 := by decide
  rw [hbits, h.numberAt_eq, hcast, hexp, zpow_natCast, ← pow_add]

theorem numberAt_largest : numberAt (infiniteBits - 1) = 2 ^ 1024 - 2 ^ 971 := by
  have h : Fits 2045 (twoTo 53 - 1) := ⟨by decide, fun _ => by decide⟩
  have hcast : ((twoTo 53 - 1 : ℕ) : ℚ) = 2 ^ 53 - 1 := by
    rw [twoTo, Nat.pow_eq]
    norm_num
  have hexp : ((2045 : ℕ) : ℤ) - 1074 = (971 : ℕ) := by decide
  have hbits : infiniteBits - 1 = 2045 * twoTo 52 + (twoTo 53 - 1) := by decide
  rw [hbits, h.numberAt_eq, hcast, hexp, zpow_natCast, sub_mul, one_mul, ← pow_add]

/-- Rounding stays below infinity exactly below the half. -/
theorem IsRounded.lt_infinite_iff {v : ℚ} {n : ℕ} (h : IsRounded v n) :
    n < infiniteBits ↔ v < overflow := by
  obtain ⟨half, hpos, hlargest, hinfinite⟩ : ∃ half : ℚ, 0 < half ∧
      numberAt (infiniteBits - 1) = overflow - half ∧
      numberAt infiniteBits = overflow + half := by
    refine ⟨2 ^ 970, pow_pos two_pos _, ?_, ?_⟩
    · rw [numberAt_largest, overflow, sub_sub, ← mul_two, ← pow_succ]
    · exact numberAt_infiniteBits.trans (sub_add_cancel _ _).symm
  constructor
  · intro hn
    by_contra hv
    have hle : numberAt n ≤ numberAt (infiniteBits - 1) :=
      strictMono_numberAt.monotone (Nat.le_sub_one_of_lt hn)
    have hnear := h.nearest infiniteBits
    have heven := h.even infiniteBits hn.ne'
    have hdist : |numberAt n - v| = v - numberAt n := by
      rw [abs_sub_comm, abs_of_nonneg (by linarith)]
    rw [hdist] at hnear heven
    rcases abs_cases (numberAt infiniteBits - v) with ⟨ha, -⟩ | ⟨ha, -⟩
    · -- only the half itself is as near to both, and infinity has the even bits
      have hlast : numberAt n = numberAt (infiniteBits - 1) := by linarith
      obtain rfl : n = infiniteBits - 1 := strictMono_numberAt.injective hlast
      exact absurd (heven (by linarith)) (by decide)
    · linarith
  · intro hv
    by_contra hn
    have hle : numberAt infiniteBits ≤ numberAt n := strictMono_numberAt.monotone (not_lt.mp hn)
    have hnear := h.nearest (infiniteBits - 1)
    rw [abs_of_nonneg (by linarith)] at hnear
    rcases abs_cases (numberAt (infiniteBits - 1) - v) with ⟨ha, -⟩ | ⟨ha, -⟩ <;> linarith

end Binary
end HeaderBindings.Decimal
