import HeaderBindings.Proofs.Decimal.Rounding
import Mathlib

/-!
# The nearest floating-point number

A floating-point number is taken apart as its format says: a sign, the field of the exponent, and
the low places of the significand. Numbers without a sign are ordered as their bits, so the rounding
of a decimal among all bits is nearest to it among all floating-point numbers, unless the decimal
lies beyond the half above the largest one.
-/
namespace HeaderBindings.Decimal

open Binary Float.Model Float.Model.UnpackedFloat

/-- The number that is meant; infinity and what is no number count as zero. -/
def numberOf : UnpackedFloat → ℚ
  | .finite .positive m e _ => m * 2 ^ e
  | .finite .negative m e _ => -(m * 2 ^ e)
  | _ => 0

/-- The number that a finite floating-point number stands for. -/
def valueOf (x : Float) : ℚ := numberOf x.toModel.unpack

/-- No finite number is nearer to `v`, and where another one is as near the significand is even.
Zero has no sign. -/
structure IsNearest (v : ℚ) (x : Float) : Prop where
  finite : x.isFinite
  unsigned : (bitsOfFloat x).1 = false
  nearest : ∀ y : Float, y.isFinite → |valueOf x - v| ≤ |valueOf y - v|
  even : ∀ y : Float, y.isFinite → valueOf y ≠ valueOf x → |valueOf y - v| = |valueOf x - v| →
    Even (bitsOfFloat x).2

/-! ### Fields -/

section Fields
variable (b : BitVec 64)

theorem toNat_unpackMantissa :
    (@unpackMantissa Format.binary64 b).toNat = b.toNat % twoTo 52 := by
  simp [unpackMantissa, twoTo]

theorem toNat_unpackExponent :
    (@unpackExponent Format.binary64 b).toNat = b.toNat / twoTo 52 % 2048 := by
  simp [unpackExponent, twoTo, Nat.shiftRight_eq_div_pow]

theorem toNat_unpackSign :
    (@unpackSign Format.binary64 b).toNat = b.toNat / twoTo 63 := by
  have hb := b.isLt
  simp [unpackSign, Nat.shiftRight_eq_div_pow, twoTo]
  omega

theorem toNat_implicit (m : BitVec 52) : (1#1 ++ m).toNat = m.toNat + twoTo 52 := by
  rw [BitVec.toNat_append, ← Nat.shiftLeft_add_eq_or_of_lt m.isLt, Nat.add_comm]
  rfl

theorem unpackExponent_eq_iff {f : ℕ} (hf : f < 2048) :
    @unpackExponent Format.binary64 b = BitVec.ofNat 11 f ↔
      b.toNat / twoTo 52 % 2048 = f := by
  have hmod : f % 2 ^ Format.binary64.exponentBits = f := Nat.mod_eq_of_lt hf
  rw [← BitVec.toNat_inj, toNat_unpackExponent, BitVec.toNat_ofNat, hmod]

/-- Under the sign stand the field of the exponent and the low places. -/
theorem mod_eq_fields (n : ℕ) :
    n % twoTo 63 = n / twoTo 52 % 2048 * twoTo 52 + n % twoTo 52 := by
  have h63 : twoTo 63 = twoTo 52 * 2048 := rfl
  rw [h63, Nat.mod_mul, Nat.add_comm, Nat.mul_comm (twoTo 52)]

/-- Infinity has the last field. -/
theorem lt_infiniteBits_iff (n : ℕ) :
    n % twoTo 63 < infiniteBits ↔ n / twoTo 52 % 2048 ≠ 2047 := by
  have hlow := Nat.mod_lt n (twoTo_pos 52)
  have hfield := Nat.mod_lt (n / twoTo 52) (by decide : 0 < 2048)
  rw [mod_eq_fields, infiniteBits]
  generalize n / twoTo 52 % 2048 = f at *
  constructor
  · rintro h rfl
    omega
  · intro h
    have := Nat.mul_le_mul_right (twoTo 52) (show f ≤ 2046 by omega)
    omega

theorem isFinite_unpack :
    (UnpackedFloat.unpack Format.binary64 b).isFinite ↔ b.toNat % twoTo 63 < infiniteBits := by
  have hinf := unpackExponent_eq_iff b (by decide : 2047 < 2048)
  rw [lt_infiniteBits_iff, Ne, ← hinf, UnpackedFloat.unpack]
  dsimp only
  split_ifs with h <;> simp_all [UnpackedFloat.isFinite]

/-- The fields mean what their bits stand for. -/
theorem numberOf_unpack (h : b.toNat % twoTo 63 < infiniteBits) :
    numberOf (UnpackedFloat.unpack Format.binary64 b) =
      if b.toNat / twoTo 63 = 0 then numberAt (b.toNat % twoTo 63)
      else -numberAt (b.toNat % twoTo 63) := by
  have hinf : @unpackExponent Format.binary64 b ≠ -1#11 :=
    (unpackExponent_eq_iff b (by decide : 2047 < 2048)).not.mpr ((lt_infiniteBits_iff _).mp h)
  have hzero := unpackExponent_eq_iff b (by decide : 0 < 2048)
  have hlow : @unpackMantissa Format.binary64 b = 0#52 ↔ b.toNat % twoTo 52 = 0 := by
    rw [← BitVec.toNat_inj, toNat_unpackMantissa]
    rfl
  have hsign : @unpackSign Format.binary64 b = 0#1 ↔ b.toNat / twoTo 63 = 0 := by
    rw [← BitVec.toNat_inj, toNat_unpackSign]
    rfl
  have hbias : Format.binary64.exponentBias = 1023 := rfl
  rw [numberAt, mod_eq_fields, ofBits_field _ (Nat.mod_lt _ (twoTo_pos 52)), UnpackedFloat.unpack]
  simp only [hinf, hzero, hlow, Sign.ofBitVec, hsign, toNat_unpackExponent, toNat_unpackMantissa,
    toNat_implicit]
  by_cases hf : b.toNat / twoTo 52 % 2048 = 0
  · by_cases hm : b.toNat % twoTo 52 = 0
    · simp [hf, hm, numberOf, value]
    · simp only [hf, hm, ↓reduceIte, ↓reduceDIte]
      split_ifs <;> simp [numberOf, value, hbias, leastExponent]
  · simp only [hf, ↓reduceIte]
    split_ifs <;> simp [numberOf, value, hbias]

end Fields

/-! ### Floating-point numbers and bits -/

theorem isFinite_iff (x : Float) : x.isFinite ↔ (bitsOfFloat x).2 < infiniteBits :=
  isFinite_unpack x.toBits.toBitVec

theorem valueOf_eq {x : Float} (h : x.isFinite) : valueOf x =
    if (bitsOfFloat x).1 then -numberAt (bitsOfFloat x).2 else numberAt (bitsOfFloat x).2 := by
  have hnumber : valueOf x = if x.toBits.toNat / twoTo 63 = 0 then numberAt (bitsOfFloat x).2
      else -numberAt (bitsOfFloat x).2 :=
    numberOf_unpack x.toBits.toBitVec ((isFinite_iff x).mp h)
  have hlt : x.toBits.toNat / twoTo 63 < 2 := Nat.div_lt_of_lt_mul x.toBits.toNat_lt
  rw [hnumber, bitsOfFloat]
  rcases Nat.le_one_iff_eq_zero_or_eq_one.mp (Nat.le_of_lt_succ hlt) with hs | hs <;> simp [hs]

/-- Bits up to those of infinity make a number without a sign. -/
theorem bitsOfFloat_floatOfBits {n : ℕ} (h : n ≤ infiniteBits) :
    bitsOfFloat (floatOfBits n) = (false, n) := by
  have hlt : n < twoTo 63 := h.trans_lt (by decide)
  have hnat : (UInt64.ofNat n).toBitVec.toNat = n := by
    rw [UInt64.toBitVec_ofNat', BitVec.toNat_ofNat, Nat.mod_eq_of_lt (hlt.trans (by decide))]
  have hvalid : Format.binary64.Valid (UInt64.ofNat n).toBitVec := by
    refine ⟨fun he hm => absurd ?_ hm⟩
    have hfield := (unpackExponent_eq_iff _ (by decide : 2047 < 2048)).mp he
    have hge := not_lt.mp fun hn => (lt_infiniteBits_iff _).mp hn hfield
    rw [hnat, Nat.mod_eq_of_lt hlt] at hge
    rw [← BitVec.toNat_inj, toNat_unpackMantissa, hnat, le_antisymm h hge]
    decide
  have hbits : (floatOfBits n).toBits.toBitVec = (UInt64.ofNat n).toBitVec :=
    UnpackedFloat.pack_unpack_of_valid hvalid
  have htoNat : (floatOfBits n).toBits.toNat = n := (congrArg BitVec.toNat hbits).trans hnat
  rw [bitsOfFloat, htoNat, Nat.div_eq_of_lt hlt, Nat.mod_eq_of_lt hlt]
  rfl

/-- Rounding among all bits is rounding among floating-point numbers. -/
theorem isNearest_floatOfBits {v : ℚ} {n : ℕ} (h : IsRounded v n) (hv : 0 ≤ v)
    (hn : n < infiniteBits) : IsNearest v (floatOfBits n) := by
  have hbits := bitsOfFloat_floatOfBits hn.le
  have hfinite : (floatOfBits n).isFinite := by
    rw [isFinite_iff, hbits]
    exact hn
  have hvalue : valueOf (floatOfBits n) = numberAt n := by
    rw [valueOf_eq hfinite, hbits]
    rfl
  have habs : |v| = v := abs_of_nonneg hv
  have hzero := h.nearest 0
  rw [numberAt_zero, zero_sub, abs_neg, habs] at hzero
  -- a number below zero is farther away than zero
  have hall : ∀ y : Float, y.isFinite →
      (∃ k, valueOf y = numberAt k) ∨ |numberAt n - v| < |valueOf y - v| := by
    intro y hy
    rw [valueOf_eq hy]
    split_ifs with hs
    · rcases (numberAt_nonneg (bitsOfFloat y).2).eq_or_lt with h0 | hpos
      · exact .inl ⟨0, by rw [← h0, numberAt_zero, neg_zero]⟩
      · refine .inr (hzero.trans_lt ?_)
        rw [abs_of_neg (by linarith)]
        linarith
    · exact .inl ⟨_, rfl⟩
  refine ⟨hfinite, by rw [hbits], fun y hy => ?_, fun y hy hne hv => ?_⟩
  · rw [hvalue]
    rcases hall y hy with ⟨k, hk⟩ | hlt
    · rw [hk]
      exact h.nearest k
    · exact hlt.le
  · rw [hbits]
    rw [hvalue] at hne hv
    rcases hall y hy with ⟨k, hk⟩ | hlt
    · rw [hk] at hne hv
      exact h.even k (fun he => hne (congrArg numberAt he)) hv
    · exact absurd hv hlt.ne'

/-! ### Decimals -/

theorem floatOfBits_zero : floatOfBits 0 = 0.0 := Float.toBits_inj.mp rfl

/-- What is at most half of the least positive number is rounded to zero. -/
theorem isRounded_zero {v : ℚ} (h0 : 0 ≤ v) (h : 2 * v ≤ 2 ^ (-1074 : ℤ)) : IsRounded v 0 := by
  have hfits : Fits 0 1 := ⟨by decide, fun h => absurd rfl h⟩
  have hone : numberAt 1 = 2 ^ (-1074 : ℤ) := by simpa using hfits.numberAt_eq
  have hpos : (0 : ℚ) < 2 ^ (-1074 : ℤ) := zpow_pos two_pos _
  rw [← hone] at h hpos
  refine isRounded_of_neighbours (n := 0) (s := 1) (numberAt_zero.le.trans h0) (by linarith)
    (.inl ⟨rfl, rfl⟩) ?_ fun _ => .zero
  rw [numberAt_zero, zero_sub, abs_neg, abs_of_nonneg h0, abs_of_nonneg (by linarith)]
  linarith

theorem cast_tenTo (n : ℕ) : ((tenTo n : ℕ) : ℚ) = 10 ^ n := Nat.cast_pow 10 n

theorem two_pow_le_ten_pow (k : ℕ) : (2 : ℚ) ^ (3 * k) ≤ 10 ^ k := by
  rw [pow_mul]
  exact pow_le_pow_left₀ (by norm_num) (by norm_num) k

/-- Numbers from `10 ^ 401` on are too large. -/
theorem overflow_le_decimal {m : ℕ} (hm : m ≠ 0) {e : ℤ} (he : 400 < e) :
    overflow ≤ m * 10 ^ e := by
  have hone : (1 : ℚ) ≤ m := Nat.one_le_cast.mpr (Nat.pos_of_ne_zero hm)
  calc overflow ≤ 2 ^ 1024 := sub_le_self _ (pow_nonneg zero_le_two _)
    _ ≤ 2 ^ (3 * 401) := pow_le_pow_right₀ one_le_two (by decide)
    _ ≤ 10 ^ 401 := two_pow_le_ten_pow 401
    _ = 10 ^ (401 : ℤ) := rfl
    _ ≤ 10 ^ e := zpow_le_zpow_right₀ (by norm_num) he
    _ ≤ m * 10 ^ e := le_mul_of_one_le_left (zpow_nonneg (by norm_num) _) hone

/-- A decimal is at most the power of two that the size of its digits and three places for each of
its decimal places give. -/
theorem decimal_le_two_zpow (m : ℕ) {e : ℤ} (he : e ≤ 0) :
    (m * 10 ^ e : ℚ) ≤ 2 ^ ((m.log2 : ℤ) + 1 + 3 * e) := by
  obtain ⟨k, rfl⟩ := Int.exists_eq_neg_ofNat he
  have hm : (m : ℚ) ≤ 2 ^ (m.log2 + 1) := by exact_mod_cast Nat.lt_log2_self.le
  have hpow : (2 : ℚ) ^ ((m.log2 : ℤ) + 1 + 3 * -(k : ℤ)) = 2 ^ (m.log2 + 1) * (2 ^ (3 * k))⁻¹ := by
    rw [zpow_add₀ two_ne_zero, mul_neg, zpow_neg]
    norm_cast
  rw [hpow, zpow_neg, zpow_natCast]
  exact mul_le_mul hm (inv_anti₀ (pow_pos two_pos _) (two_pow_le_ten_pow k))
    (inv_nonneg.mpr (pow_nonneg (by norm_num) _)) (pow_nonneg zero_le_two _)

/-- The shortcuts for large and small exponents leave out no number that would be rounded
otherwise. -/
theorem exists_isRounded_decimal (m : ℕ) (e : ℤ) :
    ∃ n, IsRounded (m * 10 ^ e) n ∧ floatOfDecimal m e = floatOfBits (min n infiniteBits) := by
  have hwhole : 0 ≤ e → (m * 10 ^ e : ℚ) = (m * tenTo e.toNat : ℕ) / (1 : ℕ) := by
    intro he
    rw [Nat.cast_mul, cast_tenTo, ← zpow_natCast, Int.toNat_of_nonneg he, Nat.cast_one, div_one]
  have hratio : e ≤ 0 → (m * 10 ^ e : ℚ) = m / (tenTo (-e).toNat : ℕ) := by
    intro he
    rw [cast_tenTo, ← zpow_natCast, Int.toNat_of_nonneg (by omega), zpow_neg, div_inv_eq_mul]
  unfold floatOfDecimal
  split_ifs with hm hlarge hsmall hneg
  · subst hm
    exact ⟨0, isRounded_zero (by simp) (by simp), floatOfBits_zero.symm⟩
  · obtain ⟨n, hn, -⟩ := exists_isRounded (Nat.mul_pos (Nat.pos_of_ne_zero hm) (tenTo_pos e.toNat))
      Nat.one_pos
    rw [← hwhole (by omega)] at hn
    refine ⟨n, hn, congrArg floatOfBits (min_eq_right ?_).symm⟩
    exact not_lt.mp (hn.lt_infinite_iff.not.mpr (not_lt.mpr (overflow_le_decimal hm hlarge)))
  · refine ⟨0, isRounded_zero (by positivity) ?_, floatOfBits_zero.symm⟩
    calc (2 * (m * 10 ^ e) : ℚ) ≤ 2 * 2 ^ ((m.log2 : ℤ) + 1 + 3 * e) :=
          mul_le_mul_of_nonneg_left (decimal_le_two_zpow m (by omega)) zero_le_two
      _ = 2 ^ (1 + ((m.log2 : ℤ) + 1 + 3 * e)) := (zpow_one_add₀ two_ne_zero _).symm
      _ ≤ 2 ^ (-1074 : ℤ) := zpow_le_zpow_right₀ one_le_two (by omega)
  · rw [hratio (by omega)]
    obtain ⟨n, hn, hbits⟩ := exists_isRounded (Nat.pos_of_ne_zero hm) (tenTo_pos (-e).toNat)
    exact ⟨n, hn, congrArg floatOfBits hbits⟩
  · rw [hwhole (by omega)]
    obtain ⟨n, hn, hbits⟩ := exists_isRounded
      (Nat.mul_pos (Nat.pos_of_ne_zero hm) (tenTo_pos e.toNat)) Nat.one_pos
    exact ⟨n, hn, congrArg floatOfBits hbits⟩

/-- A decimal is read as the nearest number, and beyond the half above the largest number as
infinity. -/
theorem floatOfDecimal_spec (m : ℕ) (e : ℤ) :
    (m * 10 ^ e < overflow → IsNearest (m * 10 ^ e) (floatOfDecimal m e)) ∧
      (overflow ≤ m * 10 ^ e → (floatOfDecimal m e).isFinite = false) := by
  obtain ⟨n, hn, hfloat⟩ := exists_isRounded_decimal m e
  rw [hfloat]
  refine ⟨fun hv => ?_, fun hv => ?_⟩
  · have hlt := hn.lt_infinite_iff.mpr hv
    rw [min_eq_left hlt.le]
    exact isNearest_floatOfBits hn (by positivity) hlt
  · have hge := not_lt.mp (hn.lt_infinite_iff.not.mpr (not_lt.mpr hv))
    rw [min_eq_right hge, Bool.eq_false_iff, Ne, isFinite_iff, bitsOfFloat_floatOfBits le_rfl]
    exact lt_irrefl _

end HeaderBindings.Decimal
