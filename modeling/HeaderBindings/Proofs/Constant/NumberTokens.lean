import HeaderBindings.Proofs.Constant.Formula

/-!
# The text under a number

A token that a formula can have tells what it is written with: a number is written with a literal of
its value, and a symbol with its characters. A number that is read from a text without underscores
is written with the text that was read, where only an octal numeral has a mark.
-/
namespace HeaderBindings.Constant

open Text

/-! ### What tokens are written with -/

/-- What a token is written with. -/
inductive Writes : Token → Text → Prop
  | integer (l : Literal) : Writes (.int l.value) l.text
  | float (l : FloatLiteral) : Writes (.float l.float) l.text
  | symbol {p : String × Symbol} (hp : p ∈ symbolTable) : Writes (.symbol p.2) p.1.toList

/-- A token of a number, of a symbol or of a line end. No formula has another one. -/
def Token.isFormal : Token → Bool
  | .int _ => true
  | .float _ => true
  | .symbol _ => true
  | .lineEnd => true
  | _ => false

/-! ### Marks -/

/-- A text without the mark of octal numerals. -/
def unmark (t : Text) : Text := t.filter (· ≠ 'o')

theorem unmark_append (s t : Text) : unmark (s ++ t) = unmark s ++ unmark t :=
  List.filter_append _ _

theorem unmark_cons {c : Char} (h : c ≠ 'o') (t : Text) : unmark (c :: t) = c :: unmark t :=
  List.filter_cons_of_pos (by simpa using h)

theorem unmark_eq_self {t : Text} (h : 'o' ∉ t) : unmark t = t := by
  refine List.filter_eq_self.mpr fun c hc => ?_
  simpa using ne_of_mem_of_not_mem hc h

/-- All that a token is read from is seen. -/
def IsSeen (c : Char) : Prop := isLineEnd c = false ∧ c ∉ hidingChars

/-- A text has no foreign letter but the mark of octal numerals. -/
def IsMarked (t : Text) : Prop := ∀ c ∈ t, isForeignLetter c = true → c = 'o'

theorem IsMarked.not_mem {t : Text} (h : IsMarked t) {c : Char} (hc : isForeignLetter c = true)
    (ho : c ≠ 'o') : c ∉ t := fun hm => ho (h c hm hc)

/-! ### Digits -/

section Digits
variable {n : ℕ} {value? : Char → Option ℕ} {char : Fin n → Char}

/-- Without underscores in the text, digits are read as they stand and as far as they go. -/
theorem exists_of_digitGroups? (hv : ∀ c d, value? c = some d → ∃ e : Fin n, e.val = d ∧ char e = c)
    {t rest : Text} {ds : List ℕ} (hu : '_' ∉ t) (h : digitGroups? value? t = some (ds, rest)) :
    ∃ es : List (Fin n), ds = es.map Fin.val ∧ t = es.map char ++ rest ∧
      ∀ c ∈ rest.head?, value? c = none := by
  induction t generalizing ds with
  | nil =>
    obtain ⟨rfl, rfl⟩ := Prod.mk.inj (Option.some.inj h)
    exact ⟨[], rfl, rfl, by rintro c ⟨⟩⟩
  | cons c r ih =>
    have hr : '_' ∉ r := List.not_mem_of_not_mem_cons hu
    rw [digitGroups?] at h
    cases hc : value? c with
    | none =>
      rw [hc] at h
      obtain ⟨rfl, rfl⟩ := Prod.mk.inj (Option.some.inj h)
      refine ⟨[], rfl, rfl, ?_⟩
      rintro d ⟨⟩
      exact hc
    | some d =>
      obtain ⟨e, rfl, rfl⟩ := hv c d hc
      have hnext : (digitGroups? value? r).map (fun p => (e.val :: p.1, p.2)) =
          some (ds, rest) := by
        rw [hc] at h
        dsimp only at h
        split at h
        · exact absurd List.mem_cons_self hr
        · exact absurd List.mem_cons_self hr
        · exact h
      obtain ⟨⟨ds', s⟩, hds, heq⟩ := Option.map_eq_some_iff.mp hnext
      obtain ⟨rfl, rfl⟩ := Prod.mk.inj heq
      obtain ⟨es, rfl, rfl, hstop⟩ := ih hr hds
      exact ⟨e :: es, rfl, rfl, hstop⟩

end Digits

theorem exists_of_decimalDigit? (c : Char) (d : ℕ) (h : decimalDigit? c = some d) :
    ∃ e : Fin 10, e.val = d ∧ digitChar e = c := by
  unfold decimalDigit? at h
  split_ifs at h with hc
  obtain ⟨hl, hu⟩ := toNat_of_isDigit hc
  refine ⟨⟨c.toNat - 48, by omega⟩, Option.some.inj h, ?_⟩
  show Char.ofNat (48 + (c.toNat - 48)) = c
  rw [show 48 + (c.toNat - 48) = c.toNat by omega, Char.ofNat_toNat]

theorem exists_of_octalDigit? (c : Char) (d : ℕ) (h : octalDigit? c = some d) :
    ∃ e : Fin 8, e.val = d ∧ octalChar e = c := by
  obtain ⟨hd, hlt⟩ := Option.filter_eq_some_iff.mp h
  obtain ⟨e, rfl, hc⟩ := exists_of_decimalDigit? c d hd
  exact ⟨⟨e.val, by simpa using hlt⟩, rfl, hc⟩

/-- Digits without a leading zero are the digits of their number. -/
theorem ofNat_ofDigits {d : Fin 10} (hd : d ≠ 0) (ds : List (Fin 10)) :
    Text.ofNat (Text.ofDigits 10 ((d :: ds).map Fin.val)) = (d :: ds).map digitChar := by
  induction ds using List.reverseRecOn with
  | nil =>
    revert d
    decide
  | append_singleton ds e ih =>
    have hsplit : Text.ofDigits 10 ((d :: (ds ++ [e])).map Fin.val) =
        Text.ofDigits 10 ((d :: ds).map Fin.val) * 10 + e.val := by
      simp [Text.ofDigits]
    have hpos : 0 < Text.ofDigits 10 ((d :: ds).map Fin.val) := by
      refine Nat.pos_of_ne_zero fun h0 => hd ?_
      rw [h0] at ih
      have hinj : ∀ d : Fin 10, '0' = digitChar d → d = 0 := by decide
      exact hinj d (List.cons.inj ih).1
    have hlast : ∀ e : Fin 10, Nat.digitChar e.val = digitChar e := by decide
    have he := e.isLt
    unfold Text.ofNat at ih ⊢
    rw [hsplit, Nat.toDigits_of_base_le (by decide) (by omega),
      show (Text.ofDigits 10 ((d :: ds).map Fin.val) * 10 + e.val) / 10 =
        Text.ofDigits 10 ((d :: ds).map Fin.val) by omega,
      show (Text.ofDigits 10 ((d :: ds).map Fin.val) * 10 + e.val) % 10 = e.val by omega, ih,
      hlast]
    simp

theorem ofDigits_replicate_zero (base n : ℕ) : Text.ofDigits base (List.replicate n 0) = 0 := by
  induction n with
  | zero => rfl
  | succ n ih => simpa [Text.ofDigits, List.replicate_succ] using ih

/-- Digits of which only zeros have a leading zero are a literal. -/
theorem exists_literal {ds : List (Fin 10)} (hne : ds ≠ [])
    (hz : ds.head? = some 0 → ∀ d ∈ ds, d = 0) :
    ∃ l : Literal, l.text = ds.map digitChar ∧
      l.value = Text.ofDigits 10 (ds.map Fin.val) := by
  obtain ⟨d, r, rfl⟩ := List.exists_cons_of_ne_nil hne
  by_cases hd : d = 0
  · subst hd
    obtain ⟨n, rfl⟩ : ∃ n, r = List.replicate n 0 :=
      ⟨r.length, List.eq_replicate_of_mem fun e he => hz rfl e (List.mem_cons_of_mem _ he)⟩
    cases n with
    | zero => exact ⟨.decimal 0, rfl, rfl⟩
    | succ n =>
      have hvalue := ofDigits_replicate_zero
      refine ⟨.octal 0 (List.replicate n 0), ?_, ?_⟩
      · have hchar : octalChar 0 = digitChar 0 := rfl
        simp [Literal.text, List.replicate_succ, hchar]
        rfl
      · have h8 : (0 : Fin 8) :: List.replicate n 0 = List.replicate (n + 1) 0 := rfl
        have h10 : (0 : Fin 10) :: List.replicate (n + 1) 0 = List.replicate (n + 2) 0 := rfl
        rw [Literal.value, h8, h10, List.map_replicate, List.map_replicate]
        exact (hvalue _ _).trans (hvalue _ _).symm
  · exact ⟨.decimal _, ofNat_ofDigits hd r, rfl⟩

/-! ### Numbers -/

/-- What is read as an exponent is one, or nothing is read. -/
theorem exists_of_readExponent? {t rest : Text} {x : Option ℤ} (hu : '_' ∉ t)
    (h : readExponent? t = some (x, rest)) :
    ∃ e : Option Exponent, x = e.map Exponent.value ∧
      t = (e.map Exponent.text).getD [] ++ rest := by
  have hnone : some ((none : Option ℤ), t) = some (x, rest) →
      ∃ e : Option Exponent, x = e.map Exponent.value ∧
        t = (e.map Exponent.text).getD [] ++ rest := by
    intro h
    obtain ⟨rfl, rfl⟩ := Prod.mk.inj (Option.some.inj h)
    exact ⟨none, rfl, rfl⟩
  cases t with
  | nil => exact hnone h
  | cons c r =>
    unfold readExponent? at h
    dsimp only at h
    split_ifs at h with hc
    · obtain ⟨upper, rfl⟩ : ∃ b : Bool, c = if b then 'E' else 'e' := by
        rcases hc with rfl | rfl
        · exact ⟨false, rfl⟩
        · exact ⟨true, rfl⟩
      have hr : '_' ∉ r := List.not_mem_of_not_mem_cons hu
      have hsigned : ∀ (sign : ExponentSign) (s : Text), r = sign.char :: s →
          readExponent?.signed sign.value s = some (x, rest) →
          ∃ e : Option Exponent, x = e.map Exponent.value ∧
            (if upper then 'E' else 'e') :: r = (e.map Exponent.text).getD [] ++ rest := by
        rintro sign s rfl h
        rw [readExponent?.signed] at h
        split at h
        · next d ds s' hg =>
          obtain ⟨rfl, rfl⟩ := Prod.mk.inj (Option.some.inj h)
          obtain ⟨es, hes, rfl, -⟩ := exists_of_digitGroups? exists_of_decimalDigit?
            (List.not_mem_of_not_mem_cons hr) hg
          obtain ⟨e, es, rfl⟩ : ∃ e es', es = e :: es' :=
            List.exists_cons_of_ne_nil (by rintro rfl; cases hes)
          refine ⟨some ⟨upper, some sign, e, es⟩, ?_, ?_⟩
          · rw [hes]
            rfl
          · simp [Exponent.text, Exponent.lead, Exponent.mark, Exponent.digits]
        · cases h
      split at h
      · exact hsigned .plus _ rfl h
      · exact hsigned .minus _ rfl h
      · split at h
        · exact hnone h
        · next ds s hne hg =>
          obtain ⟨rfl, rfl⟩ := Prod.mk.inj (Option.some.inj h)
          obtain ⟨es, rfl, rfl, -⟩ := exists_of_digitGroups? exists_of_decimalDigit? hr hg
          obtain ⟨e, es, rfl⟩ : ∃ e es', es = e :: es' :=
            List.exists_cons_of_ne_nil (by rintro rfl; exact hne rfl)
          refine ⟨some ⟨upper, none, e, es⟩, ?_, ?_⟩
          · simp [Exponent.value, Exponent.digits]
          · simp [Exponent.text, Exponent.lead, Exponent.mark, Exponent.digits]
        · cases h
    · exact hnone h

theorem decimalDigit?_eq_none_iff {c : Char} : decimalDigit? c = none ↔ c.isDigit = false := by
  simp [decimalDigit?]

/-- A number that does not begin with a digit begins with a point and a digit. -/
theorem exists_of_atNumber {t : Text} (h : atNumber t = true)
    (hd : ∀ c ∈ t.head?, decimalDigit? c = none) : ∃ c r, t = '.' :: c :: r ∧ c.isDigit = true := by
  unfold atNumber at h
  split at h
  · next c r => exact ⟨c, r, rfl, h⟩
  · next c r hne =>
    rw [decimalDigit?_eq_none_iff.mp (hd c rfl)] at h
    cases h
  · cases h

theorem FloatLiteral.float_eq (l : FloatLiteral) : l.float =
    Decimal.floatOfDecimal (Text.ofDigits 10 (l.whole.map Fin.val ++ l.places.map Fin.val))
      ((l.exponent.map Exponent.value).getD 0 - (l.places.map Fin.val).length) := by
  rw [float, List.map_append, List.length_map]

section Numbers
variable {ds : List (Fin 10)} {t rest : Text} {k : Token} (hu : '_' ∉ t) (hk : k.isFormal = true)
include hu hk

/-- What is read with a point after the digits in front is a floating literal. -/
theorem exists_of_finishNumber?_point (hat : atNumber (ds.map digitChar ++ '.' :: t) = true)
    (h : finishNumber? (ds.map Fin.val) ('.' :: t) = some (k, rest)) :
    ∃ l : FloatLiteral, k = .float l.float ∧ ds.map digitChar ++ '.' :: t = l.text ++ rest := by
  obtain ⟨p, hplaces, h⟩ := Option.bind_eq_some_iff.mp h
  obtain ⟨⟨places, s⟩, hes, rfl⟩ := Option.map_eq_some_iff.mp hplaces
  obtain ⟨⟨x, s'⟩, hx, h⟩ := Option.bind_eq_some_iff.mp h
  dsimp only at h hx
  obtain ⟨es, rfl, rfl, hend⟩ := exists_of_digitGroups? exists_of_decimalDigit? hu hes
  have hdigit : ds ++ es ≠ [] := by
    intro hnil
    obtain ⟨rfl, rfl⟩ := List.append_eq_nil_iff.mp hnil
    obtain ⟨c, r, hcr, hc⟩ := exists_of_atNumber hat (by rintro c ⟨⟩; rfl)
    obtain rfl : s = c :: r := (List.cons.inj hcr).2
    rw [decimalDigit?_eq_none_iff.mp (hend c rfl)] at hc
    cases hc
  have hs : '_' ∉ s := fun hm => hu (List.mem_append_right _ hm)
  obtain ⟨e, rfl, rfl⟩ := exists_of_readExponent? hs hx
  split at h
  · split_ifs at h
    cases h
    cases hk
  · split_ifs at h
    cases h
    cases hk
  · split_ifs at h with hmay hint
    · simp at hint
    · obtain ⟨rfl, rfl⟩ := Prod.mk.inj (Option.some.inj h)
      refine ⟨⟨ds, some es, e, hdigit, .inl rfl⟩, ?_, ?_⟩
      · rw [FloatLiteral.float_eq]
        rfl
      · simp [FloatLiteral.text, FloatLiteral.mantissa]

/-- What is read without a point is a literal of an integer, or it has an exponent. -/
theorem exists_of_finishNumber?_whole (hne : ∀ r, t ≠ '.' :: r) (hds : ds ≠ [])
    (h : finishNumber? (ds.map Fin.val) t = some (k, rest)) :
    (∃ l : Literal, k = .int l.value ∧ ds.map digitChar ++ t = l.text ++ rest) ∨
      ∃ l : FloatLiteral, k = .float l.float ∧ ds.map digitChar ++ t = l.text ++ rest := by
  unfold finishNumber? at h
  dsimp only at h
  split at h
  · next r => exact absurd rfl (hne r)
  · obtain ⟨p, hp, h⟩ := Option.bind_eq_some_iff.mp h
    obtain rfl := Option.some.inj hp
    obtain ⟨⟨x, s⟩, hx, h⟩ := Option.bind_eq_some_iff.mp h
    dsimp only at h hx
    obtain ⟨e, rfl, rfl⟩ := exists_of_readExponent? hu hx
    split at h
    · split_ifs at h
      cases h
      cases hk
    · split_ifs at h
      cases h
      cases hk
    · split_ifs at h with hmay hint hbad
      · obtain ⟨rfl, rfl⟩ := Prod.mk.inj (Option.some.inj h)
        obtain rfl : e = none := by simpa using hint
        obtain ⟨hz, -⟩ : (ds.head? = some 0 → ∀ d ∈ ds, d = 0) ∧
            ds.length ≤ maxLiteralDigits := by
          simpa using hbad
        obtain ⟨l, hl, hvalue⟩ := exists_literal hds hz
        exact .inl ⟨l, by rw [hvalue], by rw [hl]; rfl⟩
      · obtain ⟨rfl, rfl⟩ := Prod.mk.inj (Option.some.inj h)
        have hsome : e.isSome := by
          cases e with
          | none => exact absurd rfl hint
          | some e => rfl
        refine .inr ⟨⟨ds, none, e, by simpa using hds, .inr hsome⟩, ?_, ?_⟩
        · rw [FloatLiteral.float_eq]
          rfl
        · simp [FloatLiteral.text, FloatLiteral.mantissa]

/-- The places and the exponent after the digits that a number begins with. -/
theorem exists_of_finishNumber? (hat : atNumber (ds.map digitChar ++ t) = true)
    (hstop : ∀ c ∈ t.head?, decimalDigit? c = none)
    (h : finishNumber? (ds.map Fin.val) t = some (k, rest)) :
    ∃ w, ds.map digitChar ++ t = w ++ rest ∧ (∀ c ∈ w, IsFloatChar c) ∧ Writes k w := by
  have hfloat : (∃ l : FloatLiteral, k = .float l.float ∧
      ds.map digitChar ++ t = l.text ++ rest) →
      ∃ w, ds.map digitChar ++ t = w ++ rest ∧ (∀ c ∈ w, IsFloatChar c) ∧ Writes k w := by
    rintro ⟨l, rfl, ht⟩
    exact ⟨l.text, ht, l.isFloatChar_text, .float l⟩
  by_cases hpoint : ∃ r, t = '.' :: r
  · obtain ⟨r, rfl⟩ := hpoint
    exact hfloat (exists_of_finishNumber?_point (List.not_mem_of_not_mem_cons hu) hk hat h)
  · have hds : ds ≠ [] := by
      rintro rfl
      obtain ⟨c, r, hcr, -⟩ := exists_of_atNumber hat hstop
      exact hpoint ⟨_, hcr⟩
    rcases exists_of_finishNumber?_whole hu hk (not_exists.mp hpoint) hds h with
      ⟨l, rfl, ht⟩ | hl
    · exact ⟨l.text, ht, fun c hc => .inl (l.isDigit_of_mem c hc), .integer l⟩
    · exact hfloat hl

end Numbers

theorem exists_of_readBased? {t rest : Text} {k : Token} (hu : '_' ∉ t)
    (h : readBased? 8 octalDigit? t = some (k, rest)) :
    ∃ d ds, t = (d :: ds).map octalChar ++ rest ∧ k = .int (Literal.octal d ds).value := by
  unfold readBased? at h
  dsimp only at h
  split at h
  · next d ds s hg =>
    have hdigits : digitGroups? octalDigit? t = some (d :: ds, s) := by
      split at hg
      · exact absurd List.mem_cons_self hu
      · exact hg
    split_ifs at h
    obtain ⟨rfl, rfl⟩ := Prod.mk.inj (Option.some.inj h)
    obtain ⟨es, hes, rfl, -⟩ := exists_of_digitGroups? exists_of_octalDigit? hu hdigits
    obtain ⟨e, es, rfl⟩ := List.exists_cons_of_ne_nil (show es ≠ [] by rintro rfl; cases hes)
    exact ⟨e, es, rfl, by rw [hes]; rfl⟩
  · cases h

theorem IsFloatChar.isSeen {c : Char} (h : IsFloatChar c) : IsSeen c :=
  forall_isFloatChar (p := fun c => isLineEnd c = false ∧ c ∉ hidingChars) (by decide) (by decide) h

theorem exists_of_readNumber? {t rest : Text} {k : Token} (hm : IsMarked t)
    (hat : atNumber t = true) (hk : k.isFormal = true) (h : readNumber? t = some (k, rest)) :
    ∃ w, t = w ++ rest ∧ (∀ c ∈ w, IsSeen c) ∧ Writes k (unmark w) := by
  have hu : '_' ∉ t := hm.not_mem (by decide) (by decide)
  have hmark : ∀ c r, t = '0' :: c :: r → isForeignLetter c = true → c = 'o' :=
    fun c r ht hc => hm c (by simp [ht]) hc
  unfold readNumber? at h
  split at h
  · exact absurd (hmark _ _ rfl (by decide)) (by decide)
  · exact absurd (hmark _ _ rfl (by decide)) (by decide)
  · next r =>
    have hr : '_' ∉ r := fun hm => hu (by simp [hm])
    obtain ⟨d, ds, rfl, rfl⟩ := exists_of_readBased? hr h
    have hdigit : ∀ c ∈ (d :: ds).map octalChar, c.isDigit = true := by
      intro c hc
      obtain ⟨e, -, rfl⟩ := List.mem_map.mp hc
      exact isDigit_octalChar e
    refine ⟨'0' :: 'o' :: (d :: ds).map octalChar, rfl, ?_, ?_⟩
    · refine List.forall_mem_cons.mpr ⟨by unfold IsSeen; decide, ?_⟩
      refine List.forall_mem_cons.mpr ⟨by unfold IsSeen; decide, fun c hc => ?_⟩
      exact IsFloatChar.isSeen (.inl (hdigit c hc))
    · have ho : 'o' ∉ (d :: ds).map octalChar := fun hm => absurd (hdigit _ hm) (by decide)
      have hunmark : unmark ('0' :: 'o' :: (d :: ds).map octalChar) = (Literal.octal d ds).text :=
        congrArg ('0' :: ·) (unmark_eq_self ho)
      rw [hunmark]
      exact .integer _
  · exact absurd (hmark _ _ rfl (by decide)) (by decide)
  · exact absurd (hmark _ _ rfl (by decide)) (by decide)
  · exact absurd (hmark _ _ rfl (by decide)) (by decide)
  · obtain ⟨⟨ds, s⟩, hds, hfinish⟩ := Option.bind_eq_some_iff.mp h
    obtain ⟨es, rfl, rfl, hstop⟩ := exists_of_digitGroups? exists_of_decimalDigit? hu hds
    have hs : '_' ∉ s := fun hm => hu (by simp [hm])
    obtain ⟨w, hw, hchars, hwrites⟩ := exists_of_finishNumber? hs hk hat hstop hfinish
    have ho : 'o' ∉ w := fun hm => absurd (hchars _ hm) (by unfold IsFloatChar; decide)
    exact ⟨w, hw, fun c hc => (hchars c hc).isSeen, by rwa [unmark_eq_self ho]⟩

end HeaderBindings.Constant
