import HeaderBindings.Proofs.Constant.Lexing

/-!
# Texts of constants

The text of an integer has digits only, behind a minus sign when it is negative. The text of a
floating-point number has a point, an exponent or a word besides. So the text of a constant tells
which of the two it is, and gives an integer back.
-/
namespace HeaderBindings.Constant

open Decimal (Layout Shortest placePoint)
open Text (isDigit_ofNat ofNat_eq_cons)

/-! ### Numbers in texts -/

/-- What the text of a constant tells: an integer, or the text of a floating-point number. -/
inductive Number
  | int (n : ℤ)
  | decimal (t : Text)
deriving DecidableEq, Repr

/-- The number that a text of digits denotes. -/
def natural? (t : Text) : Option ℕ :=
  if t ≠ [] ∧ ∀ c ∈ t, c.isDigit = true then
    some (Text.ofDigits 10 (t.map fun c => c.toNat - 48))
  else none

/-- The integer that a text of digits denotes, with a minus sign allowed in front. -/
def integer? : Text → Option ℤ
  | '-' :: r => (natural? r).map fun n => -(n : ℤ)
  | t => (natural? t).map fun n => (n : ℤ)

def Number.ofText (t : Text) : Number :=
  match integer? t with
  | some n => .int n
  | none => .decimal t

/-- What the text of a value should tell. -/
def Value.number : Value → Number
  | .int n => .int n
  | .float x => .decimal (Layout.standard.writeFloat x)

/-! ### Integers -/

theorem natural?_ofNat (n : ℕ) : natural? (Text.ofNat n) = some n := by
  rw [natural?, if_pos ⟨Nat.toDigits_ne_nil, isDigit_ofNat⟩]
  exact congrArg some (ofDigits_digitsOf n)

theorem integer?_ofInt (n : ℤ) : integer? (Text.ofInt n) = some n := by
  cases n with
  | ofNat n =>
    obtain ⟨c, r, ht, hc, -⟩ := ofNat_eq_cons n
    have hne : ∀ s, Text.ofNat n ≠ '-' :: s := by
      rintro s hs
      rw [ht] at hs
      obtain rfl := (List.cons.inj hs).1
      cases hc
    rw [Text.ofInt, integer?.eq_2 _ hne, natural?_ofNat]
    rfl
  | negSucc n =>
    rw [Text.ofInt, integer?, natural?_ofNat]
    rfl

/-! ### Floating-point numbers -/

/-- Characters that no integer has. Each floating-point number has one of them. -/
def floatMarks : List Char := ['.', 'e', 'n']

/-- All characters of numbers. -/
def numberChars : List Char := "0123456789+-.einaf".toList

theorem mem_numberChars_of_isDigit {c : Char} (h : c.isDigit = true) : c ∈ numberChars :=
  forall_isDigit (by decide) h

theorem isDigit_of_mem_floatMarks : ∀ c ∈ floatMarks, c.isDigit = false := by decide

theorem natural?_eq_none {t : Text} {c : Char} (hm : c ∈ floatMarks) (hc : c ∈ t) :
    natural? t = none := by
  refine if_neg fun h => ?_
  have hd := h.2 c hc
  rw [isDigit_of_mem_floatMarks c hm] at hd
  cases hd

theorem integer?_eq_none {t : Text} {c : Char} (hm : c ∈ floatMarks) (hc : c ∈ t) :
    integer? t = none := by
  unfold integer?
  split
  · next r =>
    have hr : c ∈ r := by
      refine (List.mem_cons.mp hc).resolve_left ?_
      rintro rfl
      exact absurd hm (by decide)
    rw [natural?_eq_none hm hr]
    rfl
  · rw [natural?_eq_none hm hc]
    rfl

/-- A text that shows a floating-point number. -/
structure ShowsFloat (t : Text) : Prop where
  mark : ∃ c ∈ t, c ∈ floatMarks
  chars : ∀ c ∈ t, c ∈ numberChars

theorem mem_numberChars_zeros (n : ℕ) : ∀ c ∈ List.replicate n '0', c ∈ numberChars := by
  intro c hc
  rw [List.eq_of_mem_replicate hc]
  decide

section Layouts
variable {digits : Text} (hd : ∀ c ∈ digits, c ∈ numberChars)
include hd

theorem showsFloat_placePoint (n : ℤ) : ShowsFloat (placePoint digits n) := by
  have hz := mem_numberChars_zeros
  unfold placePoint
  split_ifs
  · refine ⟨⟨'.', by simp, by decide⟩, ?_⟩
    exact List.forall_mem_append.mpr ⟨List.forall_mem_append.mpr ⟨by decide, hz _⟩, hd⟩
  · refine ⟨⟨'.', by simp, by decide⟩, ?_⟩
    exact List.forall_mem_append.mpr ⟨List.forall_mem_append.mpr ⟨hd, hz _⟩, by decide⟩
  · refine ⟨⟨'.', by simp, by decide⟩, ?_⟩
    refine List.forall_mem_append.mpr ⟨fun c hc => hd c (List.mem_of_mem_take hc), ?_⟩
    exact List.forall_mem_cons.mpr ⟨by decide, fun c hc => hd c (List.mem_of_mem_drop hc)⟩

theorem ShowsFloat.after {t : Text} (h : ShowsFloat t) : ShowsFloat (digits ++ t) where
  mark := by
    obtain ⟨c, hc, hm⟩ := h.mark
    exact ⟨c, List.mem_append_right _ hc, hm⟩
  chars := List.forall_mem_append.mpr ⟨hd, h.chars⟩

end Layouts

theorem mem_numberChars_ofNat {n : ℕ} : ∀ c ∈ Text.ofNat n, c ∈ numberChars :=
  fun c hc => mem_numberChars_of_isDigit (isDigit_ofNat c hc)

variable (l : Layout)

theorem showsFloat_exponentText (e : ℤ) : ShowsFloat (l.exponentText e) := by
  refine ⟨⟨'e', List.mem_cons_self, by decide⟩, ?_⟩
  refine List.forall_mem_append.mpr ⟨?_, mem_numberChars_ofNat⟩
  have hsign : (if e < 0 then '-' else '+') ∈ numberChars := by
    split_ifs <;> decide
  exact List.forall_mem_cons.mpr
    ⟨by decide, List.forall_mem_cons.mpr ⟨hsign, mem_numberChars_zeros _⟩⟩

theorem showsFloat_write (d : Shortest) : ShowsFloat (l.write d) := by
  have hd := mem_numberChars_ofNat (n := d.digits)
  have he (e : ℤ) := showsFloat_exponentText l e
  obtain ⟨c, r, ht, -⟩ := ofNat_eq_cons d.digits
  simp only [Layout.write, ht] at hd ⊢
  split_ifs
  · exact showsFloat_placePoint hd _
  · cases r with
    | nil => exact (he _).after hd
    | cons b r =>
      obtain ⟨hc, hr⟩ := List.forall_mem_cons.mp hd
      have hp : ∀ a ∈ c :: '.' :: b :: r, a ∈ numberChars :=
        List.forall_mem_cons.mpr ⟨hc, List.forall_mem_cons.mpr ⟨by decide, hr⟩⟩
      exact (he _).after hp

theorem showsFloat_writeFloat (x : Float) : ShowsFloat (l.writeFloat x) := by
  rcases hx : Decimal.bitsOfFloat x with ⟨negative, bits⟩
  have hsign : ∀ c ∈ (if negative = true then ['-'] else []), c ∈ numberChars := by
    cases negative <;> decide
  simp only [Layout.writeFloat, hx]
  generalize (if negative = true then ['-'] else []) = sign at hsign
  split_ifs
  · exact ⟨⟨'n', by decide, by decide⟩, by decide⟩
  · exact ShowsFloat.after hsign ⟨⟨'n', by decide, by decide⟩, by decide⟩
  · exact ShowsFloat.after hsign ⟨⟨'.', by decide, by decide⟩, by decide⟩
  · exact (showsFloat_write l _).after hsign

/-! ### Values -/

theorem Value.mem_numberChars (v : Value) : ∀ c ∈ v.write, c ∈ numberChars := by
  cases v with
  | int n =>
    cases n with
    | ofNat n => exact mem_numberChars_ofNat
    | negSucc n => exact List.forall_mem_cons.mpr ⟨by decide, mem_numberChars_ofNat⟩
  | float x => exact (showsFloat_writeFloat _ x).chars

theorem Value.not_mem_write (v : Value) {c : Char} (h : c ∉ numberChars) : c ∉ v.write :=
  fun hc => h (v.mem_numberChars c hc)

/-- The text of a value tells what it should. -/
theorem Number.ofText_write (v : Value) : Number.ofText v.write = v.number := by
  cases v with
  | int n => rw [Value.write, Number.ofText, integer?_ofInt]; rfl
  | float x =>
    obtain ⟨c, hc, hm⟩ := (showsFloat_writeFloat Layout.standard x).mark
    rw [Value.write, Number.ofText, integer?_eq_none hm hc]
    rfl

end HeaderBindings.Constant
