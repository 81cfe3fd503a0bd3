import HeaderBindings.Proofs.Decimal.Bits
import Mathlib.Data.Nat.Log
import Mathlib.Data.Rat.Floor

/-!
# Rounding a ratio

A ratio is written in the unit that leaves 53 places before the point, or in the least unit if that
is larger. The whole number below it then fits its exponent, and so does the one above, and rounding
takes the nearer one of the two.
-/
namespace HeaderBindings.Decimal
namespace Binary

/-- A quotient is rounded down or up, to the nearer whole number; from the middle to the even
one. -/
theorem roundQuotient_cases (num : ℕ) {den : ℕ} (hd : 0 < den) :
    ∃ part : ℚ, (num / den : ℚ) = (num / den : ℕ) + part ∧ 0 ≤ part ∧ part < 1 ∧
      (roundQuotient num den = num / den ∧ 2 * part ≤ 1 ∧
          (2 * part = 1 → Even (num / den)) ∨
        roundQuotient num den = num / den + 1 ∧ 1 ≤ 2 * part ∧
          (2 * part = 1 → Even (num / den + 1))) := by
  have hd' : (0 : ℚ) < den := Nat.cast_pos.mpr hd
  have hdouble : (2 * ((num % den : ℕ) / den) : ℚ) = (2 * (num % den) : ℕ) / den := by
    push_cast
    ring
  refine ⟨(num % den : ℕ) / den, ?_, by positivity, ?_, ?_⟩
  · have hsplit : (num : ℚ) = den * (num / den : ℕ) + (num % den : ℕ) := by
      exact_mod_cast (Nat.div_add_mod num den).symm
    field_simp
    linarith
  · rw [div_lt_one hd']
    exact_mod_cast Nat.mod_lt num hd
  · rw [hdouble, div_le_one hd', one_le_div hd', div_eq_one_iff_eq hd'.ne', Nat.cast_le,
      Nat.cast_le, Nat.cast_inj, Nat.even_iff, Nat.even_iff]
    unfold roundQuotient
    dsimp only
    split_ifs with h
    · exact .inl ⟨rfl, by omega, by omega⟩
    · exact .inr ⟨rfl, by omega, by omega⟩

theorem cast_twoTo (n : ℕ) : ((twoTo n : ℕ) : ℚ) = 2 ^ n := Nat.cast_pow 2 n

/-! ### Units -/

/-- In another unit a ratio is divided by that unit. -/
theorem scaled_ratio (num den : ℕ) (q : ℤ) :
    ((scaled num den q).1 : ℚ) / (scaled num den q).2 = num / den / 2 ^ q := by
  unfold scaled
  split_ifs with hq
  · have hunit : (2 : ℚ) ^ q = ((twoTo (-q).toNat : ℕ) : ℚ)⁻¹ := by
      rw [cast_twoTo, ← zpow_natCast, ← zpow_neg, Int.toNat_of_nonneg (by omega), neg_neg]
    rw [hunit, div_inv_eq_mul]
    push_cast
    ring
  · have hunit : (2 : ℚ) ^ q = ((twoTo q.toNat : ℕ) : ℚ) := by
      rw [cast_twoTo, ← zpow_natCast, Int.toNat_of_nonneg (by omega)]
    rw [hunit, div_div]
    push_cast
    rfl

theorem scaled_pos (num : ℕ) {den : ℕ} (hd : 0 < den) (q : ℤ) : 0 < (scaled num den q).2 := by
  unfold scaled
  split_ifs
  · exact hd
  · exact Nat.mul_pos hd (twoTo_pos _)

/-- Whole numbers compare with the quotient as with the ratio. -/
theorem quotient_lt_iff (num : ℕ) {den : ℕ} (hd : 0 < den) (q : ℤ) (k : ℕ) :
    (scaled num den q).1 / (scaled num den q).2 < twoTo k ↔ (num / den / 2 ^ q : ℚ) < 2 ^ k := by
  have hpos := scaled_pos num hd q
  rw [← scaled_ratio, div_lt_iff₀ (Nat.cast_pos.mpr hpos), Nat.div_lt_iff_lt_mul hpos,
    ← cast_twoTo]
  norm_cast

section Units
variable {num den : ℕ} (hn : 0 < num) (hd : 0 < den)
include hn hd

/-- A ratio lies between the powers of two that the sizes of its parts give. -/
theorem ratio_bounds : (2 : ℚ) ^ ((num.log2 : ℤ) - den.log2 - 1) ≤ num / den ∧
    (num / den : ℚ) < 2 ^ ((num.log2 : ℤ) - den.log2 + 1) := by
  have hcast : ∀ n : ℕ, 0 < n → (2 : ℚ) ^ (n.log2 : ℤ) ≤ n ∧ (n : ℚ) < 2 ^ ((n.log2 : ℤ) + 1) := by
    intro n hn
    have hlow : 2 ^ n.log2 ≤ n := Nat.log2_self_le hn.ne'
    have hhigh : n < 2 ^ (n.log2 + 1) := Nat.lt_log2_self
    constructor
    · rw [zpow_natCast]
      exact_mod_cast hlow
    · rw [← Nat.cast_succ, zpow_natCast]
      exact_mod_cast hhigh
  obtain ⟨hnl, hnu⟩ := hcast num hn
  obtain ⟨hdl, hdu⟩ := hcast den hd
  have hd0 : (0 : ℚ) < den := Nat.cast_pos.mpr hd
  constructor
  · rw [sub_sub, zpow_sub₀ two_ne_zero]
    exact div_le_div₀ (Nat.cast_nonneg _) hnl hd0 hdu.le
  · rw [sub_add_eq_add_sub, zpow_sub₀ two_ne_zero]
    exact div_lt_div₀ hnu hdl (zpow_nonneg zero_le_two _) (zpow_pos two_pos _)

/-- In its unit a ratio has at most 53 places before the point, and not fewer unless the unit is the
least one. -/
theorem unitFor_bounds :
    leastExponent ≤ unitFor num den ∧ (num / den / 2 ^ unitFor num den : ℚ) < 2 ^ 53 ∧
      (leastExponent < unitFor num den → (2 ^ 52 : ℚ) ≤ num / den / 2 ^ unitFor num den) := by
  obtain ⟨hlow, hhigh⟩ := ratio_bounds hn hd
  have hunit : ∀ q : ℤ, (0 : ℚ) < 2 ^ q := zpow_pos two_pos
  have hpower : ∀ k : ℕ, ∀ q : ℤ, (2 : ℚ) ^ k * 2 ^ q = 2 ^ (k + q) := fun k q => by
    rw [zpow_add₀ two_ne_zero, zpow_natCast]
  -- the guess from the sizes of the parts is right or one too small
  obtain ⟨best, hbest, hl, hu⟩ : ∃ best, unitFor num den = max leastExponent best ∧
      (2 ^ 52 : ℚ) ≤ num / den / 2 ^ best ∧ (num / den / 2 ^ best : ℚ) < 2 ^ 53 := by
    refine ⟨_, rfl, ?_⟩
    split_ifs with h
    · refine ⟨?_, (quotient_lt_iff num hd _ _).mp h⟩
      rw [le_div_iff₀ (hunit _), hpower]
      exact (zpow_le_zpow_right₀ one_le_two (by omega)).trans hlow
    · have hge := not_lt.mp ((quotient_lt_iff num hd _ _).not.mp h)
      rw [le_div_iff₀ (hunit _), hpower] at hge
      rw [le_div_iff₀ (hunit _), div_lt_iff₀ (hunit _), hpower, hpower]
      exact ⟨(zpow_le_zpow_right₀ one_le_two (by omega)).trans hge,
        hhigh.trans_le (zpow_le_zpow_right₀ one_le_two (by omega))⟩
  rw [hbest]
  rcases le_total leastExponent best with hle | hle
  · rw [max_eq_right hle]
    exact ⟨hle, hu, fun _ => hl⟩
  · rw [max_eq_left hle]
    refine ⟨le_rfl, lt_of_le_of_lt ?_ hu, fun h => absurd h (lt_irrefl _)⟩
    exact div_le_div_of_nonneg_left ((hunit _).le.trans hlow) (hunit _)
      (zpow_le_zpow_right₀ one_le_two hle)

end Units

/-! ### Rounding -/

/-- The whole numbers next to a number in its unit stand for its neighbours, so rounding there is
rounding among all numbers. -/
theorem isRounded_of_unit {v part : ℚ} {e f m : ℕ} (hlow : Fits e f) (hhigh : Fits e (f + 1))
    (hv : v / 2 ^ ((e : ℤ) - 1074) = f + part) (h0 : 0 ≤ part) (h1 : part < 1)
    (hm : m = f ∧ 2 * part ≤ 1 ∧ (2 * part = 1 → Even f) ∨
      m = f + 1 ∧ 1 ≤ 2 * part ∧ (2 * part = 1 → Even (f + 1))) :
    IsRounded v (e * twoTo 52 + m) := by
  have hf := hlow.numberAt_eq
  have hf' := hhigh.numberAt_eq
  have hunit : (0 : ℚ) < 2 ^ ((e : ℤ) - 1074) := zpow_pos two_pos _
  have heven : ∀ k, Even k → Even (e * twoTo 52 + k) := fun k hk =>
    (Even.mul_left (by decide) e).add hk
  have heven' := heven (f + 1)
  rw [div_eq_iff hunit.ne'] at hv
  rw [← Nat.add_assoc] at hf' heven'
  push_cast at hf'
  generalize (2 : ℚ) ^ ((e : ℤ) - 1074) = unit at *
  have hl : numberAt (e * twoTo 52 + f) ≤ v := by
    rw [hf, hv]
    nlinarith
  have hu : v < numberAt (e * twoTo 52 + f + 1) := by
    rw [hf', hv]
    nlinarith
  have hbelow : |numberAt (e * twoTo 52 + f) - v| = part * unit := by
    rw [abs_sub_comm, abs_of_nonneg (by linarith), hf, hv]
    ring
  have habove : |numberAt (e * twoTo 52 + f + 1) - v| = (1 - part) * unit := by
    rw [abs_of_nonneg (by linarith), hf', hv]
    ring
  have hmiddle : (1 - part) * unit = part * unit → 2 * part = 1 := by
    intro h
    have := mul_right_cancel₀ hunit.ne' h
    linarith
  rcases hm with ⟨rfl, hp, he⟩ | ⟨rfl, hp, he⟩
  · refine isRounded_of_neighbours hl hu (.inl ⟨rfl, rfl⟩) ?_ fun ht => heven _ (he ?_)
    · rw [hbelow, habove]
      exact mul_le_mul_of_nonneg_right (by linarith) hunit.le
    · rw [hbelow, habove] at ht
      exact hmiddle ht
  · rw [← Nat.add_assoc]
    refine isRounded_of_neighbours hl hu (.inr ⟨rfl, rfl⟩) ?_ fun ht => heven' (he ?_)
    · rw [hbelow, habove]
      exact mul_le_mul_of_nonneg_right (by linarith) hunit.le
    · rw [hbelow, habove] at ht
      exact hmiddle ht.symm

/-- The nearest number to a ratio has the bits of its rounding, or those of infinity. -/
theorem exists_isRounded {num den : ℕ} (hn : 0 < num) (hd : 0 < den) :
    ∃ n, IsRounded (num / den) n ∧ (nearest num den).toBits = min n infiniteBits := by
  obtain ⟨hleast, hu, hl⟩ := unitFor_bounds hn hd
  have hbelow := quotient_lt_iff num hd (unitFor num den)
  obtain ⟨part, hpart, h0, h1, hround⟩ := roundQuotient_cases
    (scaled num den (unitFor num den)).1 (scaled_pos num hd (unitFor num den))
  rw [scaled_ratio] at hpart
  obtain ⟨e, he⟩ : ∃ e : ℕ, unitFor num den = (e : ℤ) - 1074 := by
    rw [leastExponent] at hleast
    exact ⟨(unitFor num den + 1074).toNat, by omega⟩
  rw [nearest, he]
  rw [he] at hu hl hbelow hpart hround
  generalize (scaled num den ((e : ℤ) - 1074)).1 / (scaled num den ((e : ℤ) - 1074)).2 = f at *
  generalize roundQuotient (scaled num den ((e : ℤ) - 1074)).1
    (scaled num den ((e : ℤ) - 1074)).2 = m at *
  have hlow : Fits e f := by
    refine ⟨((hbelow 53).mpr hu).le, fun h => ?_⟩
    have hnot := not_lt.mpr (hl (by rw [leastExponent]; omega))
    exact not_lt.mp fun hlt => hnot ((hbelow 52).mp hlt)
  have hhigh : Fits e (f + 1) := ⟨(hbelow 53).mpr hu, fun h => (hlow.full h).trans f.le_succ⟩
  refine ⟨_, isRounded_of_unit hlow hhigh hpart h0 h1 hround, Fits.toBits_eq ?_⟩
  rcases hround with ⟨rfl, -⟩ | ⟨rfl, -⟩
  · exact hlow
  · exact hhigh

end Binary
end HeaderBindings.Decimal
