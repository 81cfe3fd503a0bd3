import HeaderBindings.Proofs.Constant.FloatLiteral
import HeaderBindings.Proofs.Constant.Meaning
import HeaderBindings.Proofs.Decimal.Nearest

/-!
# The value of a floating literal

A floating literal has one token, the floating-point number that is nearest to it, and so it has
that value. It has none if it is too large, or if its exponent was respelled: no number goes on with
the mark of another base.
-/
namespace HeaderBindings.Constant

open Text Decimal

/-! ### Digits and exponents -/

/-- No digits go on here. -/
def EndsDigits (rest : Text) : Prop := ∀ c ∈ rest.head?, c.isDigit = false ∧ c ≠ '_'

theorem digitGroups?_digits (ds : List (Fin 10)) {rest : Text} (hr : EndsDigits rest) :
    digitGroups? decimalDigit? (ds.map digitChar ++ rest) = some (ds.map Fin.val, rest) := by
  have hval : ∀ d : Fin 10, (digitChar d).toNat - 48 = d.val := by decide
  have hds : ∀ c ∈ ds.map digitChar, decimalDigit? c = some (c.toNat - 48) ∧ c ≠ '_' := by
    intro c hc
    have hd := isDigit_of_mem_digits c hc
    refine ⟨by simp [decimalDigit?, hd], ?_⟩
    rintro rfl
    cases hd
  have hstop : ∀ c ∈ rest.head?, decimalDigit? c = none ∧ c ≠ '_' := fun c hc =>
    ⟨by simp [decimalDigit?, (hr c hc).1], (hr c hc).2⟩
  rw [digitGroups?_append hds hstop, List.map_map]
  exact congrArg (fun vs => some (vs, rest)) (List.map_congr_left fun d _ => hval d)

/-- An exponent is read with the digits after its sign. -/
theorem Exponent.readExponent?_lead (e : Exponent) {t s : Text} {d : ℕ} {ds : List ℕ}
    (ht : digitGroups? decimalDigit? t = some (d :: ds, s)) :
    readExponent? (e.lead ++ t) =
      some (some ((e.sign.map ExponentSign.value).getD 1 * Text.ofDigits 10 (d :: ds)), s) := by
  have hmark : e.mark = 'e' ∨ e.mark = 'E' := e.mark_eq
  cases hs : e.sign with
  | none =>
    have hsign : ∀ c r, c.isDigit = false → t ≠ c :: r := by
      rintro c r hc rfl
      simp [digitGroups?, decimalDigit?, hc] at ht
    simp only [lead, hs, Option.map_none, Option.toList_none, List.singleton_append, readExponent?,
      if_pos hmark]
    split
    · exact absurd rfl (hsign '+' _ (by decide))
    · exact absurd rfl (hsign '-' _ (by decide))
    · simp [ht]
  | some sign =>
    cases sign <;> simp [lead, hs, readExponent?, readExponent?.signed, hmark, ht,
      ExponentSign.char, ExponentSign.value]

theorem Exponent.readExponent?_text (e : Exponent) :
    readExponent? e.text = some (some e.value, []) := by
  have hend : EndsDigits [] := by rintro c ⟨⟩
  have hdigits := digitGroups?_digits e.digits hend
  rw [List.append_nil] at hdigits
  exact e.readExponent?_lead hdigits

/-- Of a respelled exponent only the zero is read. -/
theorem Exponent.readExponent?_source {e : Exponent} (ho : e.IsOctal) :
    readExponent? e.source = some (some 0, 'o' :: e.rest.map digitChar) := by
  have hzero : digitGroups? decimalDigit? ('0' :: 'o' :: e.rest.map digitChar) =
      some ([0], 'o' :: e.rest.map digitChar) :=
    digitGroups?_digits [0] (by rintro c ⟨⟩; decide)
  rw [source, if_pos ho, e.readExponent?_lead hzero]
  simp [Text.ofDigits]

/-! ### Numbers -/

/-- The literal without its exponent, followed by an exponent or nothing. -/
def StartsExponent (r : Text) : Prop := ∀ c ∈ r.head?, c = 'e' ∨ c = 'E'

section Numbers
variable {r : Text} (hr : StartsExponent r)
include hr

theorem StartsExponent.endsDigits : EndsDigits r := by
  intro c hc
  rcases hr c hc with rfl | rfl <;> decide

theorem StartsExponent.ne_point (s : Text) : r ≠ '.' :: s := by
  rintro rfl
  rcases hr '.' rfl with h | h <;> cases h

/-- The places after the point are read up to the exponent. -/
theorem finishNumber?_float (whole : List ℕ) {fraction : Option (List (Fin 10))} {x : Option ℤ}
    {s : Text} (he : readExponent? r = some (x, s)) (hj : ∀ c ∈ s.head?, c ≠ 'j' ∧ c ≠ 'J')
    (hx : fraction.isSome ∨ x.isSome) :
    finishNumber? whole ((fraction.map fun ds => '.' :: ds.map digitChar).getD [] ++ r) =
      if mayEndNumber s then
        some (.float (floatOfDecimal (Text.ofDigits 10 (whole ++ (fraction.getD []).map Fin.val))
          (x.getD 0 - (fraction.getD []).length)), s)
      else none := by
  have hend : ∀ c t, c = 'j' ∨ c = 'J' → s ≠ c :: t := by
    rintro c t hc rfl
    rcases hc with rfl | rfl
    · exact (hj 'j' rfl).1 rfl
    · exact (hj 'J' rfl).2 rfl
  unfold finishNumber?
  cases fraction with
  | none =>
    have hx' : x ≠ none := fun h => by simp [h] at hx
    simp only [Option.map_none, Option.getD_none, List.nil_append]
    split
    · exact absurd rfl (hr.ne_point _)
    · simp only [bind, Option.bind, he]
      split
      · exact absurd rfl (hend _ _ (.inl rfl))
      · exact absurd rfl (hend _ _ (.inr rfl))
      · cases hm : mayEndNumber s <;> simp [hx']
  | some ds =>
    simp only [Option.map_some, Option.getD_some, List.cons_append,
      digitGroups?_digits ds hr.endsDigits, bind, Option.bind, he]
    split
    · exact absurd rfl (hend _ _ (.inl rfl))
    · exact absurd rfl (hend _ _ (.inr rfl))
    · cases hm : mayEndNumber s <;> simp

/-- No mark of another base stands behind a zero in front. -/
theorem FloatLiteral.not_based (l : FloatLiteral) {c : Char} {t : Text}
    (hc : c ∈ ['x', 'X', 'o', 'O', 'b', 'B']) : l.mantissa ++ r ≠ '0' :: c :: t := by
  have hnot : ∀ c ∈ ['x', 'X', 'o', 'O', 'b', 'B'], ¬(c.isDigit = true ∨ c = '.') ∧
      ¬(c = 'e' ∨ c = 'E') := by decide
  have hmem := l.mem_mantissa
  intro ht
  cases hm : l.mantissa with
  | nil =>
    rw [hm, List.nil_append] at ht
    rcases hr '0' (by rw [ht]; rfl) with h | h <;> cases h
  | cons d m =>
    rw [hm] at ht hmem
    obtain ⟨-, ht⟩ := List.cons.inj ht
    cases m with
    | nil =>
      obtain rfl : r = c :: t := ht
      exact (hnot c hc).2 (hr c rfl)
    | cons d' m =>
      obtain ⟨rfl, -⟩ := List.cons.inj ht
      exact (hnot _ hc).1 (hmem _ (by simp))

/-- A literal is read up to where its exponent ends. -/
theorem FloatLiteral.readNumber?_mantissa (l : FloatLiteral) {x : Option ℤ} {s : Text}
    (he : readExponent? r = some (x, s)) (hj : ∀ c ∈ s.head?, c ≠ 'j' ∧ c ≠ 'J')
    (hx : l.fraction.isSome ∨ x.isSome) : readNumber? (l.mantissa ++ r) =
      if mayEndNumber s then
        some (.float (floatOfDecimal (Text.ofDigits 10 ((l.whole ++ l.places).map Fin.val))
          (x.getD 0 - l.places.length)), s)
      else none := by
  have hends : EndsDigits ((l.fraction.map fun ds => '.' :: ds.map digitChar).getD [] ++ r) := by
    cases l.fraction with
    | none => exact hr.endsDigits
    | some ds =>
      rintro c ⟨⟩
      decide
  have hfinish := finishNumber?_float hr (l.whole.map Fin.val) he hj hx
  rw [← List.map_append] at hfinish
  unfold readNumber?
  split
  any_goals exact absurd ‹_› (l.not_based hr (by decide))
  rw [mantissa, List.append_assoc, digitGroups?_digits _ hends]
  exact hfinish

end Numbers

namespace FloatLiteral
variable (l : FloatLiteral)

/-- The floating-point number that is read. -/
def float (l : FloatLiteral) : Float :=
  floatOfDecimal (Text.ofDigits 10 ((l.whole ++ l.places).map Fin.val))
    ((l.exponent.map Exponent.value).getD 0 - l.places.length)

theorem readNumber?_text : readNumber? l.text = some (.float l.float, []) := by
  have hr : StartsExponent ((l.exponent.map Exponent.text).getD []) := by
    cases l.exponent with
    | none => rintro c ⟨⟩
    | some e =>
      rintro c ⟨⟩
      exact e.mark_eq
  have he : readExponent? ((l.exponent.map Exponent.text).getD []) =
      some (l.exponent.map Exponent.value, []) := by
    cases l.exponent with
    | none => rfl
    | some e => exact e.readExponent?_text
  exact l.readNumber?_mantissa hr he (by rintro c ⟨⟩) (by simpa using l.isFloat)

theorem readNumber?_source (h : l.HasOctalExponent) : readNumber? l.source = none := by
  obtain ⟨e, he, ho⟩ := h
  have hr : StartsExponent e.source := by
    rw [Exponent.source, if_pos ho]
    rintro c ⟨⟩
    exact e.mark_eq
  have hmay : mayEndNumber ('o' :: e.rest.map digitChar) = false := by
    have hr : ∀ d : Fin 10, 'r' ≠ digitChar d := by decide
    obtain ⟨-, -, hne, -⟩ := ho
    obtain ⟨d, ds, hds⟩ := List.exists_cons_of_ne_nil hne
    have ho : mayBeIdentifier 'o' = true := by decide
    simp [hds, mayEndNumber, wordsAfterNumber, startsWith, dropPrefix?, ho, hr]
  rw [source, Option.mem_def.mp he, Option.map_some, Option.getD_some,
    l.readNumber?_mantissa hr (e.readExponent?_source ho) (by rintro c ⟨⟩; decide) (.inr rfl), hmay]
  rfl

/-- A literal begins with a digit, or with a point and a digit. -/
theorem atNumber_mantissa (r : Text) : atNumber (l.mantissa ++ r) = true := by
  have hd := isDigit_digitChar
  cases hw : l.whole with
  | cons d ds =>
    simp only [mantissa, hw, List.map_cons, List.cons_append]
    unfold atNumber
    split
    · next h =>
      have hpoint := hd d
      rw [(List.cons.inj h).1] at hpoint
      cases hpoint
    · next h =>
      rw [← (List.cons.inj h).1]
      exact hd d
    · next h => cases h
  | nil =>
    have hdigit := l.hasDigit
    rcases hf : l.fraction with _ | _ | ⟨d, ds⟩
    · exact absurd (by rw [hw, hf]; rfl) hdigit
    · exact absurd (by rw [hw, hf]; rfl) hdigit
    · simp [mantissa, hw, hf, atNumber, hd]

end FloatLiteral

/-! ### Characters -/

/-- A character of a literal. -/
def IsFloatChar (c : Char) : Prop := c.isDigit = true ∨ c ∈ ".eE+-".toList

theorem forall_isFloatChar {p : Char → Prop} (hd : ∀ n < 10, p (Char.ofNat (48 + n)))
    (hm : ∀ c ∈ ".eE+-".toList, p c) {c : Char} (hc : IsFloatChar c) : p c := by
  rcases hc with hc | hc
  · exact forall_isDigit hd hc
  · exact hm c hc

theorem isFloatChar_digits {ds : List (Fin 10)} : ∀ c ∈ ds.map digitChar, IsFloatChar c :=
  fun c hc => .inl (isDigit_of_mem_digits c hc)

theorem Exponent.isFloatChar_lead {e : Exponent} : ∀ c ∈ e.lead, IsFloatChar c := by
  refine List.forall_mem_cons.mpr ⟨?_, ?_⟩
  · rcases e.mark_eq with hc | hc <;> rw [hc] <;> exact .inr (by decide)
  · rcases e.sign with _ | _ | _
    · exact fun c hc => absurd hc List.not_mem_nil
    · exact List.forall_mem_singleton.mpr (.inr (by decide))
    · exact List.forall_mem_singleton.mpr (.inr (by decide))

theorem Exponent.isFloatChar_text {e : Exponent} : ∀ c ∈ e.text, IsFloatChar c :=
  List.forall_mem_append.mpr ⟨isFloatChar_lead, isFloatChar_digits⟩

theorem Exponent.isFloatChar_source {e : Exponent} : ∀ c ∈ e.source, IsFloatChar c ∨ c = 'o' := by
  rw [source]
  split_ifs
  · refine List.forall_mem_append.mpr ⟨fun c hc => .inl (isFloatChar_lead c hc), ?_⟩
    refine List.forall_mem_cons.mpr ⟨.inl (.inl (by decide)), ?_⟩
    exact List.forall_mem_cons.mpr ⟨.inr rfl, fun c hc => .inl (isFloatChar_digits c hc)⟩
  · exact fun c hc => .inl (isFloatChar_text c hc)

namespace FloatLiteral
variable {l : FloatLiteral}

theorem isFloatChar_mantissa : ∀ c ∈ l.mantissa, IsFloatChar c := by
  intro c hc
  rcases l.mem_mantissa c hc with hd | rfl
  · exact .inl hd
  · exact .inr (by decide)

theorem isFloatChar_text : ∀ c ∈ l.text, IsFloatChar c := by
  refine List.forall_mem_append.mpr ⟨isFloatChar_mantissa, ?_⟩
  cases l.exponent with
  | none => exact fun c hc => absurd hc List.not_mem_nil
  | some e => exact e.isFloatChar_text

theorem isFloatChar_source : ∀ c ∈ l.source, IsFloatChar c ∨ c = 'o' := by
  refine List.forall_mem_append.mpr ⟨fun c hc => .inl (isFloatChar_mantissa c hc), ?_⟩
  cases l.exponent with
  | none => exact fun c hc => absurd hc List.not_mem_nil
  | some e => exact e.isFloatChar_source

end FloatLiteral

/-! ### Tokens -/

section Tokens
variable {t : Text} (ht : atNumber t = true) (hcr : '\r' ∉ t)
include ht hcr

theorem tokens_eq_tokensFrom : ∃ c r, t = c :: r ∧ c ∉ idleChars ∧
    readToken? (c :: r) = readNumber? (c :: r) ∧
    tokens t = tokensFrom (r.length + 1 + 1) 0 true (c :: r) := by
  cases t with
  | nil => cases ht
  | cons c r =>
    have hc : c.isDigit = true ∨ c = '.' := by
      unfold atNumber at ht
      split at ht
      · next h => exact .inr (List.cons.inj h).1
      · next h =>
        obtain ⟨rfl, -⟩ := List.cons.inj h
        exact .inl ht
      · next h => cases h
    have hidle : c ∉ idleChars := by
      rcases hc with hc | rfl
      · exact forall_isDigit (p := (· ∉ idleChars)) (by decide) hc
      · decide
    refine ⟨c, r, rfl, hidle, by rw [readToken?, if_pos ht], ?_⟩
    rw [tokens, unifyLineEnds_eq_self hcr, indentation_cons hidle]
    rfl

/-- A text in which no line ends is read as the number it begins with. -/
theorem tokens_of_readNumber? {token : Token} (hr : readNumber? t = some (token, []))
    (hb : bracketsAfter? 0 token = some 0) : tokens t = [token] := by
  obtain ⟨c, r, rfl, hidle, hread, htokens⟩ := tokens_eq_tokensFrom ht hcr
  rw [htokens, tokensFrom_cons hidle (hread.trans hr) hb]
  rfl

theorem tokens_of_unreadable (hr : readNumber? t = none) : tokens t = [.unreadable] := by
  obtain ⟨c, r, rfl, hidle, hread, htokens⟩ := tokens_eq_tokensFrom ht hcr
  simp only [idleChars, List.mem_cons, List.not_mem_nil, or_false, not_or] at hidle
  rw [htokens]
  simp [tokensFrom, hidle, hread.trans hr]

end Tokens

theorem readExpression_float {t : Text} {x : Float} (ht : tokens t = [.float x])
    (h0 : '\x00' ∉ t) : readExpression t = .ok (.float x) := by
  have hnode : Node.ofText t = .ok ⟨.float x, false, 1⟩ := by
    unfold Node.ofText
    rw [ht]
    rfl
  have hnul : t.contains '\x00' = false := by simpa using h0
  have hdepth : ¬Nesting.depth (tokens t) ≥ Nesting.limit := by
    rw [ht]
    exact (by decide : ¬0 ≥ Nesting.limit)
  unfold readExpression
  rw [hnul, hnode, if_neg hdepth]
  rfl

theorem readExpression_unreadable {t : Text} (ht : tokens t = [.unreadable]) :
    ∃ cause, readExpression t = .error cause := by
  have hnode : Node.ofText t = .error .invalid := by
    unfold Node.ofText
    rw [ht]
    rfl
  have hdepth : ¬Nesting.depth (tokens t) ≥ Nesting.limit := by
    rw [ht]
    exact (by decide : ¬0 ≥ Nesting.limit)
  unfold readExpression
  rw [hnode, if_neg hdepth]
  cases t.contains '\x00' <;> exact ⟨_, rfl⟩

/-! ### Values -/

theorem literalValue?_of_evaluate {t : Text} {v : Value}
    (hn : ¬(trim t = [] || (trim t).any isForeignLetter) = true)
    (hv : evaluate (trim t) = .ok v) :
    literalValue? t = if v.isFinite then some v else none := by
  rw [literalValue?, judge, if_neg hn, hv]
  dsimp only
  split_ifs <;> rfl

theorem literalValue?_of_error {t : Text} {cause : TextError}
    (hv : evaluate (trim t) = .error cause) : literalValue? t = none := by
  rw [literalValue?, judge]
  split_ifs
  · rfl
  · rw [hv]
    dsimp only
    cases cause.exhaustion? <;> rfl

namespace FloatLiteral
variable (l : FloatLiteral)

theorem isTrimmed_text : IsTrimmed l.text :=
  isTrimmed_of_forall fun c hc => forall_isFloatChar (p := fun c => isBlank c = false) (by decide)
    (by decide) (isFloatChar_text c hc)

theorem respellOctals_text : respellOctals l.text = l.source := by
  have hend : Detached [] := by rintro c ⟨⟩
  have h := l.respellOctals_append hend
  simpa [respellOctals, respellFrom] using h

theorem literalValue?_text (h : ¬l.HasOctalExponent) :
    literalValue? l.text = if l.float.isFinite then some (.float l.float) else none := by
  have hchars : ∀ c ∈ l.text, isForeignLetter c = false ∧ c ≠ '\r' ∧ c ≠ '\x00' := fun c hc =>
    forall_isFloatChar (p := fun c => isForeignLetter c = false ∧ c ≠ '\r' ∧ c ≠ '\x00')
      (by decide) (by decide) (isFloatChar_text c hc)
  have hat : atNumber l.text = true := l.atNumber_mantissa _
  have htokens : tokens l.text = [.float l.float] :=
    tokens_of_readNumber? hat (fun hm => (hchars _ hm).2.1 rfl) l.readNumber?_text rfl
  have htrim := trim_eq_self l.isTrimmed_text
  have hne : l.text ≠ [] := by
    intro hnil
    rw [hnil] at hat
    cases hat
  refine literalValue?_of_evaluate (v := .float l.float) ?_ ?_
  · simpa [htrim, hne] using fun c hc => (hchars c hc).1
  · rw [htrim, evaluate, htrim, respellOctals_text, l.source_eq_text_iff.mpr h,
      readExpression_float htokens fun hm => (hchars _ hm).2.2 rfl]
    rfl

/-- The mark of octal numerals stands where a number should have ended. -/
theorem literalValue?_octal (h : l.HasOctalExponent) : literalValue? l.text = none := by
  have hcr : '\r' ∉ l.source := by
    intro hm
    rcases isFloatChar_source _ hm with hc | hc
    · exact forall_isFloatChar (p := (· ≠ '\r')) (by decide) (by decide) hc rfl
    · cases hc
  have hat : atNumber l.source = true := l.atNumber_mantissa _
  obtain ⟨cause, hread⟩ :=
    readExpression_unreadable (tokens_of_unreadable hat hcr (l.readNumber?_source h))
  have htrim := trim_eq_self l.isTrimmed_text
  have hevaluate : evaluate (trim l.text) = .error cause := by
    rw [htrim, evaluate, htrim, respellOctals_text, hread]
    rfl
  exact literalValue?_of_error hevaluate

end FloatLiteral

/-- Between characters that do not touch it a floating literal stays as it is, unless its exponent
is a sign before what could be an octal numeral. Then the literal alone has no value; otherwise it
has the nearest floating-point number as its value, if it lies below the half above the largest
one. -/
theorem literalValue?_floatLiteral (l : FloatLiteral) :
    (∀ before after : Text, (∀ c ∈ before.getLast?, touches c = false) →
      (∀ c ∈ after.head?, touches c = false) →
      (respellOctals (before ++ l.text ++ after) =
        respellOctals before ++ l.text ++ respellOctals after ↔ ¬l.HasOctalExponent)) ∧
    (l.HasOctalExponent → literalValue? l.text = none) ∧
    (¬l.HasOctalExponent → l.value < Binary.overflow →
      ∃ x, literalValue? l.text = some (.float x) ∧ IsNearest l.value x) ∧
    (¬l.HasOctalExponent → Binary.overflow ≤ l.value → literalValue? l.text = none) := by
  have hspec : (l.value < Binary.overflow → IsNearest l.value l.float) ∧
      (Binary.overflow ≤ l.value → l.float.isFinite = false) := floatOfDecimal_spec _ _
  refine ⟨fun before after => l.respellOctals_between_iff, l.literalValue?_octal,
    fun ho hv => ⟨l.float, ?_, hspec.1 hv⟩, fun ho hv => ?_⟩
  · rw [l.literalValue?_text ho, if_pos (hspec.1 hv).finite]
  · rw [l.literalValue?_text ho, hspec.2 hv]
    rfl

/-- A sign and a zero before an octal digit cost a literal its value, alone and as an operand; a
tenth is rounded, and `10 ^ 401` is too large. -/
theorem literalValue?_floatLiteral_signedZero :
    literalValue? "1e-05".toList = none ∧
      respellOctals "2*1e-05".toList ≠ respellOctals "2*".toList ++ "1e-05".toList ∧
      (∃ x, literalValue? "0.1".toList = some (.float x) ∧ IsNearest (1 / 10) x) ∧
      literalValue? "1E401".toList = none := by
  have hsmall := literalValue?_floatLiteral
    ⟨[1], none, some ⟨false, some .minus, 0, [5]⟩, by decide, by decide⟩
  have htenth := literalValue?_floatLiteral ⟨[0], some [1], none, by decide, by decide⟩
  have hlarge := literalValue?_floatLiteral
    ⟨[1], none, some ⟨true, none, 4, [0, 1]⟩, by decide, by decide⟩
  have hvalue : (1 / 10 : ℚ) < Binary.overflow :=
    lt_of_lt_of_le (by norm_num) Binary.one_le_overflow
  refine ⟨hsmall.2.1 ⟨_, rfl, by decide⟩, fun heq => ?_, ?_, ?_⟩
  · have hbefore : ∀ c ∈ "2*".toList.getLast?, touches c = false := by
      rintro c ⟨⟩
      decide
    exact (hsmall.1 "2*".toList [] hbefore (by rintro c ⟨⟩)).mp heq ⟨_, rfl, by decide⟩
  · have hv : (1 / 10 : ℚ) = (1 : ℕ) * 10 ^ (-1 : ℤ) := by norm_num
    rw [hv] at hvalue ⊢
    exact htenth.2.2.1 (by rintro ⟨e, ⟨⟩, -⟩) hvalue
  · refine hlarge.2.2.2 ?_ (overflow_le_decimal one_ne_zero (by decide : 400 < (401 : ℤ)))
    rintro ⟨e, ⟨⟩, hs, -⟩
    cases hs

end HeaderBindings.Constant
