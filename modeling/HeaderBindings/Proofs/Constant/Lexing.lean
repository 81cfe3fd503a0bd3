import HeaderBindings.Proofs.Constant.Respelling

/-!
# The tokens of spelled trees

A text of respelled lexemes has exactly their tokens: what follows a lexeme never belongs to it,
since an operand is followed by no digit or letter and everything else by no second half of a longer
symbol.
-/
namespace HeaderBindings.Constant

open Text

/-! ### Digits -/

/-- The decimal digits of a number. -/
def digitsOf (n : ℕ) : List ℕ := (Text.ofNat n).map fun c => c.toNat - 48

theorem ofDigits_digitsOf (n : ℕ) : Text.ofDigits 10 (digitsOf n) = n := Text.ofDigits_ofNat n

/-- Only zero has a leading zero. -/
theorem digitsOf_leading_zero {n : ℕ} (h : (digitsOf n).head? = some 0) :
    ∀ d ∈ digitsOf n, d = 0 := by
  rcases Nat.eq_zero_or_pos n with rfl | hn
  · decide
  · exfalso
    have hhead := head?_ofNat hn
    obtain ⟨c, r, ht, hd, -⟩ := ofNat_eq_cons n
    rw [ht] at hhead
    have hc := toNat_of_isDigit hd
    have h48 : c.toNat - 48 = 0 := by simpa [digitsOf, ht] using h
    have hc48 : c.toNat = 48 := by omega
    exact hhead (congrArg some (Char.toNat_inj.mp hc48))

/-! ### Tokens of literals -/

/-- A text goes on with nothing that a number could hold. -/
def EndsNumber (rest : Text) : Prop :=
  ∀ c ∈ rest.head?, c.isDigit = false ∧ mayBeIdentifier c = false ∧ c ≠ '.'

theorem GoesOn.endsNumber {l : Literal} {rest : Text} (h : GoesOn (.literal l) rest) :
    EndsNumber rest := by
  have hc : ∀ c ∈ operatorChars, c.isDigit = false ∧ mayBeIdentifier c = false ∧ c ≠ '.' := by
    decide
  exact fun c hm => hc c (h c hm)

section Numbers
variable {rest : Text} (hr : EndsNumber rest)
include hr

theorem EndsNumber.mayEnd : mayEndNumber rest = true := by
  cases rest with
  | nil => rfl
  | cons c r => simp [mayEndNumber, (hr c rfl).2.1]

theorem EndsNumber.ne_letter {c : Char} (hc : mayBeIdentifier c = true) (r : Text) :
    rest ≠ c :: r := by
  rintro rfl
  rw [(hr c rfl).2.1] at hc
  cases hc

theorem EndsNumber.no_exponent : readExponent? rest = some (none, rest) := by
  cases rest with
  | nil => rfl
  | cons c r =>
    have he : c ≠ 'e' := by
      rintro rfl
      exact hr.ne_letter (by decide) r rfl
    have hE : c ≠ 'E' := by
      rintro rfl
      exact hr.ne_letter (by decide) r rfl
    simp [readExponent?, he, hE]

/-- An integer literal ends where no number goes on. -/
theorem EndsNumber.finish {whole : List ℕ} (hz : whole.head? = some 0 → ∀ d ∈ whole, d = 0)
    (hl : whole.length ≤ maxLiteralDigits) :
    finishNumber? whole rest = some (.int (Text.ofDigits 10 whole), rest) := by
  have hdot : ∀ r, rest ≠ '.' :: r := by
    rintro r rfl
    exact (hr '.' rfl).2.2 rfl
  unfold finishNumber?
  dsimp only
  split
  · next r => exact absurd rfl (hdot r)
  · simp only [bind, Option.bind, hr.no_exponent]
    split
    · exact absurd rfl (hr.ne_letter (by decide) _)
    · exact absurd rfl (hr.ne_letter (by decide) _)
    · rw [hr.mayEnd]
      simpa using ⟨hz, hl⟩

theorem readBased?_octal (d : Fin 8) (ds : List (Fin 8)) :
    readBased? 8 octalDigit? ((d :: ds).map octalChar ++ rest) =
      some (.int (Text.ofDigits 8 ((d :: ds).map Fin.val)), rest) := by
  have hv : ∀ e : Fin 8, octalDigit? (octalChar e) = some e.val ∧ octalChar e ≠ '_' := by decide
  have hval : ∀ e : Fin 8, (octalChar e).toNat - 48 = e.val := by decide
  have hgroups : digitGroups? octalDigit? ((d :: ds).map octalChar ++ rest) =
      some ((d :: ds).map Fin.val, rest) := by
    have hds : ∀ c ∈ (d :: ds).map octalChar,
        octalDigit? c = some (c.toNat - 48) ∧ c ≠ '_' := by
      intro c hc
      obtain ⟨e, -, rfl⟩ := List.mem_map.mp hc
      rw [hval]
      exact hv e
    have hstop : ∀ c ∈ rest.head?, octalDigit? c = none ∧ c ≠ '_' := by
      intro c hc
      refine ⟨by simp [octalDigit?, decimalDigit?, (hr c hc).1], ?_⟩
      rintro rfl
      exact absurd (hr '_' hc).2.1 (by decide)
    rw [digitGroups?_append hds hstop, List.map_map]
    exact congrArg (fun vs => some (vs, rest)) (List.map_congr_left (fun e _ => hval e))
  have hmark : ∀ c r, c ≠ '_' → digitGroups? octalDigit? (c :: r) =
      some ((d :: ds).map Fin.val, rest) → readBased? 8 octalDigit? (c :: r) =
        some (.int (Text.ofDigits 8 ((d :: ds).map Fin.val)), rest) := by
    intro c r hc hg
    simp [readBased?, hc, hg, hr.mayEnd]
  exact hmark _ _ (hv d).2 hgroups

end Numbers

/-- A decimal literal is read with all of its digits: there is no mark of a base after its zero. -/
theorem readNumber?_decimal {n : ℕ} {rest : Text} (hs : (Literal.decimal n).IsShort)
    (hr : EndsNumber rest) :
    readNumber? (Text.ofNat n ++ rest) = some (.int n, rest) := by
  have hgroups : digitGroups? decimalDigit? (Text.ofNat n ++ rest) = some (digitsOf n, rest) := by
    refine digitGroups?_append (fun c hc => ?_) (fun c hc => ?_)
    · have hd := isDigit_ofNat c hc
      refine ⟨by simp [decimalDigit?, hd], ?_⟩
      rintro rfl
      exact absurd hd (by decide)
    · refine ⟨by simp [decimalDigit?, (hr c hc).1], ?_⟩
      rintro rfl
      exact absurd (hr '_' hc).2.1 (by decide)
  have hmark : ∀ c r, c.isDigit = false → mayBeIdentifier c = true →
      Text.ofNat n ++ rest ≠ '0' :: c :: r := by
    intro c r hd hi he
    obtain ⟨a, ds, ht, -, hds⟩ := ofNat_eq_cons n
    rw [ht] at he
    obtain ⟨-, he⟩ := List.cons.inj he
    cases ds with
    | nil => exact hr.ne_letter hi r he
    | cons b ds =>
      obtain ⟨rfl, -⟩ := List.cons.inj he
      rw [hds b List.mem_cons_self] at hd
      cases hd
  have hshort : (digitsOf n).length ≤ maxLiteralDigits := by
    rw [digitsOf, List.length_map]
    exact hs
  have hfinish := hr.finish digitsOf_leading_zero hshort
  rw [ofDigits_digitsOf] at hfinish
  unfold readNumber?
  split
  any_goals exact absurd ‹_› (hmark _ _ (by decide) (by decide))
  rw [hgroups]
  exact hfinish

/-- A literal is read as a number. -/
theorem readNumber?_source {l : Literal} {rest : Text} (hs : l.IsShort)
    (hg : GoesOn (.literal l) rest) :
    readNumber? (l.source ++ rest) = some (.int l.value, rest) := by
  cases l with
  | decimal n => exact readNumber?_decimal hs hg.endsNumber
  | octal d ds =>
    rw [Literal.source, List.cons_append, List.cons_append, readNumber?]
    exact readBased?_octal hg.endsNumber d ds

/-! ### Tokens of symbols -/

/-- A symbol is read as the longest one that fits. -/
theorem readSymbol?_text {l : Lexeme} {rest : Text} (hl : l.isLiteral = false)
    (hg : GoesOn l rest) :
    ∃ s, readSymbol? (l.text ++ rest) = some (s, rest) ∧ l.token = .symbol s := by
  -- no symbol goes on with what an operand begins with
  have hnext : ∀ c ∈ operandChars, '=' ≠ c ∧ '>' ≠ c ∧ '*' ≠ c ∧ '/' ≠ c := by decide
  have hcons : ∀ c r, rest = c :: r → l.endsOperand = false →
      '=' ≠ c ∧ '>' ≠ c ∧ '*' ≠ c ∧ '/' ≠ c := by
    rintro c r rfl he
    have hc : c ∈ l.nextChars := hg c rfl
    rw [Lexeme.nextChars, he] at hc
    exact hnext c hc
  cases l with
  | literal l => cases hl
  | opening => exact ⟨.openParen, rfl, rfl⟩
  | closing => exact ⟨.closeParen, rfl, rfl⟩
  | unary op =>
    refine ⟨op.symbol, ?_, rfl⟩
    cases rest with
    | nil => cases op <;> rfl
    | cons c r =>
      obtain ⟨heq, hgt, -⟩ := hcons c r rfl rfl
      cases op <;>
        simp [readSymbol?, symbolTable, dropPrefix?, Lexeme.text, UnaryOp.symbol, UnaryOp.text,
          heq, hgt]
  | binary op =>
    refine ⟨op.symbol, ?_, rfl⟩
    cases rest with
    | nil => cases op <;> rfl
    | cons c r =>
      obtain ⟨heq, hgt, hstar, hslash⟩ := hcons c r rfl rfl
      cases op <;>
        simp [readSymbol?, symbolTable, dropPrefix?, Lexeme.text, BinaryOp.symbol, BinaryOp.text,
          heq, hgt, hstar, hslash]

/-- A character that begins a lexeme other than a literal. -/
theorem atNumber_operator {c : Char} (hc : c ∈ symbolChars) (r : Text) :
    atNumber (c :: r) = false ∧ mayBeIdentifier c = false ∧ c ≠ '"' ∧ c ≠ '\'' := by
  have hall : ∀ c ∈ symbolChars, c.isDigit = false ∧ c ≠ '.' ∧
      mayBeIdentifier c = false ∧ c ≠ '"' ∧ c ≠ '\'' := by decide
  obtain ⟨hd, hdot, hi, hq⟩ := hall c hc
  exact ⟨by simp [atNumber, hd, hdot], hi, hq⟩

/-- A lexeme is read as its token. -/
theorem readToken?_source {l : Lexeme} {rest : Text}
    (hs : ∀ l', l = .literal l' → l'.IsShort) (hg : GoesOn l rest) :
    readToken? (l.source ++ rest) = some (l.token, rest) := by
  cases hlit : l.isLiteral with
  | true =>
    cases l with
    | literal l =>
      have hnum := readNumber?_source (hs l rfl) hg
      obtain ⟨c, r, hc, hd⟩ := l.source_eq_cons
      have hat : atNumber (c :: (r ++ rest)) = true := by
        unfold atNumber
        split <;> simp_all
      rw [hc] at hnum
      rw [Lexeme.source, hc, List.cons_append, readToken?, if_pos hat]
      exact hnum
    | _ => cases hlit
  | false =>
    obtain ⟨s, hsym, htok⟩ := readSymbol?_text hlit hg
    obtain ⟨c, r, ht, hc, -⟩ := l.text_eq_cons hlit
    obtain ⟨hat, hi, hq⟩ := atNumber_operator hc (r ++ rest)
    rw [ht] at hsym
    rw [l.source_eq_text hlit, ht, List.cons_append, readToken?, if_neg (by simp [hat]),
      if_neg (by simp [hi]), if_neg (by simp [hq]), ← List.cons_append, hsym, htok]
    rfl

/-! ### Tokens of texts -/

theorem tokensFrom_spaces {fuel depth : ℕ} {empty : Bool} (n : ℕ) (t : Text) :
    tokensFrom (fuel + n) depth empty (List.replicate n ' ' ++ t) =
      tokensFrom fuel depth empty t := by
  induction n with
  | zero => rfl
  | succ n ih =>
    have hstep : tokensFrom (fuel + n + 1) depth empty (' ' :: (List.replicate n ' ' ++ t)) =
        tokensFrom (fuel + n) depth empty (List.replicate n ' ' ++ t) := by
      simp [tokensFrom]
    rw [List.replicate_succ, List.cons_append, ← Nat.add_assoc, hstep, ih]

/-- Characters that begin no token. -/
def idleChars : List Char := [' ', '\t', '\x0c', '\n', '#', '\\']

theorem Begins.not_idle {write : Lexeme → Text} (hw : Begins write) (l : Lexeme) :
    ∃ c r, write l = c :: r ∧ c ∉ idleChars := by
  have hall : ∀ c ∈ operandChars ++ operatorChars, c ≠ ' ' → c ∉ idleChars := by decide
  obtain ⟨c, r, ht, hs, hc⟩ := hw l
  refine ⟨c, r, ht, hall c (List.mem_append.mpr ?_) hs⟩
  split_ifs at hc
  · exact .inl hc
  · exact .inr hc

/-- A token is taken off where a lexeme stands. -/
theorem tokensFrom_cons {fuel depth after : ℕ} {empty : Bool} {c : Char} {r rest : Text}
    {token : Token} (hc : c ∉ idleChars) (hr : readToken? (c :: r) = some (token, rest))
    (hb : bracketsAfter? depth token = some after) :
    tokensFrom (fuel + 1) depth empty (c :: r) = token :: tokensFrom fuel after false rest := by
  simp only [idleChars, List.mem_cons, List.not_mem_nil, or_false, not_or] at hc
  simp [tokensFrom, hc, hr, hb]

theorem indentation_cons {c : Char} (hc : c ∉ idleChars) (r : Text) :
    indentation 0 (c :: r) = [] := by
  simp only [idleChars, List.mem_cons, List.not_mem_nil, or_false, not_or] at hc
  simp [indentation, hc]

theorem tokensFrom_layout {ls : List (Lexeme × ℕ)} {fuel depth last : ℕ} {empty : Bool}
    (hf : (layout Lexeme.source ls).length < fuel) (hc : (ls.map Prod.fst).IsChain Follows)
    (hs : ∀ l, .literal l ∈ ls.map Prod.fst → l.IsShort)
    (hb : ((ls.map Prod.fst).map Lexeme.token).foldlM bracketsAfter? depth = some last) :
    tokensFrom fuel depth empty (layout Lexeme.source ls) =
      (ls.map Prod.fst).map Lexeme.token := by
  induction ls generalizing fuel depth empty with
  | nil =>
    cases fuel with
    | zero => cases hf
    | succ fuel => rfl
  | cons p ls ih =>
    obtain ⟨l, n⟩ := p
    obtain ⟨hnext, htail⟩ := List.isChain_cons.mp hc
    obtain ⟨after, hafter, hrest⟩ := Option.bind_eq_some_iff.mp hb
    obtain ⟨c, r, ht, hidle⟩ := begins_source.not_idle l
    have hread : readToken? (l.source ++ (List.replicate n ' ' ++ layout Lexeme.source ls)) =
        some (l.token, List.replicate n ' ' ++ layout Lexeme.source ls) := by
      refine readToken?_source (fun l' hl => hs l' ?_) (goesOn_layout begins_source n hnext)
      rw [hl]
      exact List.mem_cons_self
    rw [layout_cons, ht] at hf
    simp only [List.length_append, List.length_cons, List.length_replicate] at hf
    obtain ⟨k, rfl⟩ := Nat.exists_eq_add_of_lt hf
    rw [ht, List.cons_append] at hread
    rw [layout_cons, ht]
    rw [show r.length + 1 + (n + (layout Lexeme.source ls).length) + k + 1 =
      (r.length + 1 + (layout Lexeme.source ls).length + k + n) + 1 by omega]
    rw [List.cons_append, tokensFrom_cons hidle hread hafter, tokensFrom_spaces,
      ih (by omega) htail (fun l hl => hs l (List.mem_cons_of_mem _ hl)) hrest]
    rfl

theorem unifyLineEnds_eq_self {t : Text} (h : '\r' ∉ t) : unifyLineEnds t = t := by
  induction t with
  | nil => rfl
  | cons c r ih =>
    have hc : c ≠ '\r' := (List.ne_of_not_mem_cons h).symm
    have hr : unifyLineEnds r = r := ih (List.not_mem_of_not_mem_cons h)
    simp [unifyLineEnds, hc, hr]

/-- What holds of the space and of all characters of lexemes holds throughout a layout. -/
theorem forall_mem_layout {write : Lexeme → Text} {p : Char → Prop} (hw : ∀ l, ∀ c ∈ write l, p c)
    (hs : p ' ') (ls : List (Lexeme × ℕ)) : ∀ c ∈ layout write ls, p c := by
  intro c hc
  obtain ⟨⟨l, n⟩, -, hmem⟩ := List.mem_flatMap.mp hc
  rcases List.mem_append.mp hmem with hm | hm
  · exact hw l c hm
  · rw [List.eq_of_mem_replicate hm]
    exact hs

/-- A character of a lexeme. -/
def IsPlain (c : Char) : Prop := c.isDigit = true ∨ c ∈ symbolChars

theorem Literal.isDigit_of_mem {l : Literal} : ∀ c ∈ l.text, c.isDigit = true := by
  cases l with
  | decimal n => exact isDigit_ofNat
  | octal d ds =>
    refine List.forall_mem_cons.mpr ⟨by decide, fun c hc => ?_⟩
    obtain ⟨e, -, rfl⟩ := List.mem_map.mp hc
    exact isDigit_octalChar e

theorem isPlain_text (l : Lexeme) : ∀ c ∈ l.text, IsPlain c := by
  have hsymbols : ∀ t : Text, t ⊆ symbolChars → ∀ c ∈ t, IsPlain c :=
    fun t ht c hc => .inr (ht hc)
  cases l with
  | literal l => exact fun c hc => .inl (l.isDigit_of_mem c hc)
  | unary op => cases op <;> exact hsymbols _ (by decide)
  | binary op => cases op <;> exact hsymbols _ (by decide)
  | opening => exact hsymbols _ (by decide)
  | closing => exact hsymbols _ (by decide)

theorem isPlain_source (l : Lexeme) : ∀ c ∈ l.source, IsPlain c ∨ c = 'o' := by
  rcases l with (n | ⟨d, ds⟩) | op | op | _ | _
  · exact fun c hc => .inl (.inl (isDigit_ofNat c hc))
  · refine List.forall_mem_cons.mpr ⟨.inl (.inl (by decide)), ?_⟩
    refine List.forall_mem_cons.mpr ⟨.inr rfl, fun c hc => .inl (.inl ?_)⟩
    exact (Literal.octal d ds).isDigit_of_mem c (List.mem_cons_of_mem _ hc)
  · exact fun c hc => .inl (isPlain_text (.unary op) c hc)
  · exact fun c hc => .inl (isPlain_text (.binary op) c hc)
  · exact fun c hc => .inl (isPlain_text .opening c hc)
  · exact fun c hc => .inl (isPlain_text .closing c hc)

theorem forall_isPlain {p : Char → Prop} (hd : ∀ n < 10, p (Char.ofNat (48 + n)))
    (hs : ∀ c ∈ symbolChars, p c) {c : Char} (hc : IsPlain c) : p c := by
  rcases hc with hc | hc
  · exact forall_isDigit hd hc
  · exact hs c hc

/-- A text of lexemes has the tokens of its lexemes. -/
theorem tokens_layout {ls : List (Lexeme × ℕ)} {last : ℕ}
    (hc : (ls.map Prod.fst).IsChain Follows)
    (hs : ∀ l, .literal l ∈ ls.map Prod.fst → l.IsShort)
    (hb : ((ls.map Prod.fst).map Lexeme.token).foldlM bracketsAfter? 0 = some last) :
    tokens (layout Lexeme.source ls) = (ls.map Prod.fst).map Lexeme.token := by
  have hplain : ∀ c ∈ layout Lexeme.source ls, c ≠ '\r' := by
    refine forall_mem_layout (fun l c hc => ?_) (by decide) _
    rcases isPlain_source l c hc with h | rfl
    · exact forall_isPlain (p := (· ≠ '\r')) (by decide) (by decide) h
    · decide
  have hunify : unifyLineEnds (layout Lexeme.source ls) = layout Lexeme.source ls :=
    unifyLineEnds_eq_self (fun hm => hplain _ hm rfl)
  have hindent : indentation 0 (layout Lexeme.source ls) = [] := by
    cases ls with
    | nil => rfl
    | cons p ls =>
      obtain ⟨c, r, ht, hidle⟩ := begins_source.not_idle p.1
      rw [layout_cons, ht]
      exact indentation_cons hidle _
  unfold tokens
  dsimp only
  rw [hunify, hindent, List.nil_append]
  exact tokensFrom_layout (Nat.lt_succ_self _) hc hs hb

end HeaderBindings.Constant
