import HeaderBindings.Text.Digit
import HeaderBindings.Text.Numeral
import HeaderBindings.Text.Word
import Mathlib.Data.Nat.Digits.Lemmas

/-!
# Numerals that are read

The decimal digits of a number are read as that number, and a numeral is read as a number with no
more digits than it has itself. So a number that was read from a text can be written and read again,
whatever digits the text had.
-/
namespace HeaderBindings.Text

/-! ### Written numbers -/

theorem isDigit_ofNat {n : ℕ} : ∀ c ∈ ofNat n, c.isDigit = true :=
  fun _ hc => Nat.isDigit_of_mem_toDigits (by decide) (by decide) hc

theorem ofNat_eq_cons (n : ℕ) :
    ∃ c r, ofNat n = c :: r ∧ c.isDigit = true ∧ ∀ d ∈ r, d.isDigit = true := by
  have hd := isDigit_ofNat (n := n)
  cases ht : ofNat n with
  | nil => exact absurd ht Nat.toDigits_ne_nil
  | cons c r =>
    rw [ht, List.forall_mem_cons] at hd
    exact ⟨c, r, rfl, hd⟩

theorem toNat_of_isDigit {c : Char} (h : c.isDigit = true) : 48 ≤ c.toNat ∧ c.toNat ≤ 57 := by
  simpa [Char.isDigit, UInt32.le_iff_toNat_le] using h

theorem isWord_of_isDigit {c : Char} (h : c.isDigit = true) : isWord c = true := by
  have hlt : c.toNat < 128 := by
    have hu := (toNat_of_isDigit h).2
    omega
  simp [isWord, hlt, Char.isAlphanum, h]

theorem isDigitLike_of_isDigit {c : Char} (h : c.isDigit = true) : isDigitLike c = true := by
  simp [isDigitLike, isDecimal, digitValue?, h]

theorem ofDigits_ofNat (n : ℕ) : ofDigits 10 ((ofNat n).map fun c => c.toNat - 48) = n := by
  have hfold : ∀ (ds : List Char) (k : ℕ),
      (ds.map fun c => c.toNat - 48).foldl (fun m d => m * 10 + d) k =
        Nat.ofDigitChars 10 ds k := by
    intro ds
    induction ds with
    | nil => intro k; simp
    | cons d ds ih =>
      intro k
      rw [List.map_cons, List.foldl_cons, ih, Nat.ofDigitChars_cons, mul_comm]
      rfl
  rw [ofDigits, hfold]
  exact Nat.ofDigitChars_ten_toDigits

/-! ### Digits -/

/-- Digits are read up to a character that goes on with neither a digit nor an underscore. -/
theorem digitGroups?_append {value? : Char → Option ℕ} {value : Char → ℕ} {ds rest : Text}
    (hd : ∀ c ∈ ds, value? c = some (value c) ∧ c ≠ '_')
    (hr : ∀ c ∈ rest.head?, value? c = none ∧ c ≠ '_') :
    digitGroups? value? (ds ++ rest) = some (ds.map value, rest) := by
  induction ds with
  | nil =>
    cases rest with
    | nil => rfl
    | cons c r => simp [digitGroups?, (hr c rfl).1]
  | cons d ds ih =>
    obtain ⟨⟨hv, -⟩, hds⟩ := List.forall_mem_cons.mp hd
    have hnext : ∀ c ∈ (ds ++ rest).head?, c ≠ '_' := by
      cases ds with
      | nil => exact fun c hc => (hr c hc).2
      | cons e es =>
        rintro c ⟨⟩
        exact (hds _ List.mem_cons_self).2
    rw [List.cons_append, digitGroups?, hv]
    dsimp only
    split
    · next e s he => exact absurd rfl (hnext '_' (by rw [he]; rfl))
    · next he => exact absurd rfl (hnext '_' (by rw [he]; rfl))
    · rw [ih hds]
      rfl

theorem digitValue?_le {c : Char} {d : ℕ} (h : digitValue? c = some d) : d ≤ 9 := by
  unfold digitValue? at h
  split_ifs at h with hc
  · cases h
    have hd := (toNat_of_isDigit hc).2
    omega
  · obtain ⟨z, hz, rfl⟩ := Option.map_eq_some_iff.mp h
    have hr : z ≤ c.toNat ∧ c.toNat ≤ z + 9 := by simpa using List.find?_some hz
    omega

/-- A number of one digit has a text. -/
theorem isWritable_of_natAbs_le {n : ℤ} (h : n.natAbs ≤ 9) : isWritable n = true := by
  have hpow (k : ℕ) (hk : k ≠ 0) : 9 < Decimal.tenTo k := Nat.le_self_pow hk 10
  exact decide_eq_true (h.trans_lt (hpow maxDigits (by decide)))

/-- Digits that are read are values of digits. -/
theorem exists_of_mem_digitGroups? {value? : Char → Option ℕ} {t rest : Text} {ds : List ℕ}
    (h : digitGroups? value? t = some (ds, rest)) : ∀ d ∈ ds, ∃ c, value? c = some d := by
  fun_induction digitGroups? value? t generalizing ds with
  | case1 => cases h; simp
  | case2 c r hc => cases h; simp
  | case3 c d hd e s he ih =>
    obtain ⟨⟨ds, rest'⟩, hp, heq⟩ := Option.map_eq_some_iff.mp h
    cases heq
    exact List.forall_mem_cons.mpr ⟨⟨c, hd⟩, ih hp⟩
  | case4 => cases h
  | case5 => cases h
  | case6 c d hd _ _ _ ih =>
    obtain ⟨⟨ds, rest'⟩, hp, heq⟩ := Option.map_eq_some_iff.mp h
    cases heq
    exact List.forall_mem_cons.mpr ⟨⟨c, hd⟩, ih hp⟩

/-- A number has no more digits than it was read from. -/
theorem ofDigits_lt {ds : List ℕ} (h : ∀ d ∈ ds, d ≤ 9) : ofDigits 10 ds < 10 ^ ds.length := by
  have hfold : ∀ (ds : List ℕ) (k n : ℕ), (∀ d ∈ ds, d ≤ 9) → n < 10 ^ k →
      ds.foldl (fun n d => n * 10 + d) n < 10 ^ (ds.length + k) := by
    intro ds
    induction ds with
    | nil => intro k n _ hn; simpa using hn
    | cons d ds ih =>
      intro k n hd hn
      obtain ⟨hd, hds⟩ := List.forall_mem_cons.mp hd
      have hstep := ih (k + 1) (n * 10 + d) hds (by rw [pow_succ]; omega)
      rwa [show ds.length + (k + 1) = (d :: ds).length + k by simp; omega] at hstep
  exact hfold ds 0 0 h (by simp)

/-! ### Reading whole numbers -/

theorem isNumeralBlank_of_isDigit {c : Char} (h : c.isDigit = true) : isNumeralBlank c = false := by
  obtain ⟨hl, hu⟩ := toNat_of_isDigit h
  have hspace : c ≠ ' ' := by
    rintro rfl
    cases h
  simp [isNumeralBlank, hspace, show c.toNat < 127 by omega, show ¬c.toNat ≤ 13 by omega]

/-- A number is read from its digits, if these are not too many. -/
theorem readInt?_ofNat {n : ℕ} (h : n < 10 ^ maxDigits) : readInt? (ofNat n) = .ok (n : ℤ) := by
  have hlen : (ofNat n).length ≤ maxDigits :=
    (Nat.length_toDigits_le_iff (by decide) (by decide)).mpr h
  obtain ⟨c, r, ht, hc, -⟩ := ofNat_eq_cons n
  have hstart : (ofNat n).dropWhile isNumeralBlank = ofNat n := by
    rw [ht, List.dropWhile_cons_of_neg (by simp [isNumeralBlank_of_isDigit hc])]
  have hsign : splitSign (ofNat n) = (false, ofNat n) := by
    rw [ht]
    unfold splitSign
    split
    · next he => cases (List.cons.inj he).1; cases hc
    · next he => cases (List.cons.inj he).1; cases hc
    · rfl
  have hdigits : digitGroups? digitValue? (ofNat n) =
      some ((ofNat n).map fun c => c.toNat - 48, []) := by
    have hvalue : ∀ d ∈ ofNat n, digitValue? d = some (d.toNat - 48) ∧ d ≠ '_' := by
      intro d hd
      have hdigit := isDigit_ofNat d hd
      refine ⟨by simp [digitValue?, hdigit], ?_⟩
      rintro rfl
      cases hdigit
    have hend : ∀ d ∈ ([] : Text).head?, digitValue? d = none ∧ d ≠ '_' := by simp
    have hgroups := digitGroups?_append hvalue hend
    rwa [List.append_nil] at hgroups
  have hne : ofNat n ≠ [] := Nat.toDigits_ne_nil
  simp [readInt?, hstart, hsign, hdigits, Nat.not_lt.mpr hlen, hne, ofDigits_ofNat]

/-- What is read from a text without a sign can be written with as many digits as may be read. -/
theorem exists_of_readInt? {t : Text} {n : ℤ} (h : readInt? t = .ok n) (hs : '-' ∉ t) :
    ∃ k : ℕ, n = k ∧ k < 10 ^ maxDigits := by
  unfold readInt? at h
  have hsign : (splitSign (t.dropWhile isNumeralBlank)).1 = false := by
    unfold splitSign
    split
    · next r he =>
      have hm : '-' ∈ t.dropWhile isNumeralBlank := by simp [he]
      exact absurd (List.dropWhile_subset _ hm) hs
    · rfl
    · rfl
  generalize splitSign (t.dropWhile isNumeralBlank) = s at h hsign
  obtain ⟨negative, body⟩ := s
  obtain rfl : negative = false := hsign
  dsimp only at h
  split at h
  · cases h
  · next ds rest hd =>
    rw [if_neg Bool.false_ne_true] at h
    split_ifs at h with hlong
    cases h
    have hsmall : ∀ d ∈ ds, d ≤ 9 := by
      intro d hm
      obtain ⟨c, hc⟩ := exists_of_mem_digitGroups? hd d hm
      exact digitValue?_le hc
    refine ⟨ofDigits 10 ds, rfl, (ofDigits_lt hsmall).trans_le ?_⟩
    exact Nat.pow_le_pow_right (by decide) (not_lt.mp hlong)

end HeaderBindings.Text
