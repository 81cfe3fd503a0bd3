import HeaderBindings.Proofs.Constant.Spelling
import HeaderBindings.Proofs.Text.Numerals
import HeaderBindings.Proofs.Text.Pieces
import Mathlib.Tactic.IntervalCases

/-!
# Respelled trees

Spaced lexemes are respelled one by one: octal literals get their mark and nothing else changes.
An octal numeral would be overlooked beside a word character, but no literal stands next to another.
-/
namespace HeaderBindings.Constant

open Text

/-! ### Characters -/

/-- What operators and parentheses are written with. -/
def symbolChars : List Char := "()+-~*/%<>&^|".toList

/-- What an operand may begin with, or a space. -/
def operandChars : List Char := " (+-~0123456789".toList

/-- What may follow an operand. -/
def operatorChars : List Char := " )+-*/%<>&^|".toList

/-- What may follow a lexeme. -/
def Lexeme.nextChars (l : Lexeme) : List Char :=
  if l.endsOperand then operatorChars else operandChars

/-- The rest of a text goes on with what may follow a lexeme. -/
def GoesOn (l : Lexeme) (rest : Text) : Prop := ∀ c ∈ rest.head?, c ∈ l.nextChars

/-- A way of writing lexemes that begins as they do. -/
def Begins (write : Lexeme → Text) : Prop :=
  ∀ l, ∃ c r, write l = c :: r ∧ c ≠ ' ' ∧
    c ∈ if l.startsOperand then operandChars else operatorChars

/-! ### Digits -/

/-- A number that is not zero has no leading zero. -/
theorem head?_ofNat {n : ℕ} (h : 0 < n) : (Text.ofNat n).head? ≠ some '0' := by
  induction n using Nat.strongRecOn with
  | ind n ih =>
    unfold Text.ofNat at ih ⊢
    rcases lt_or_ge n 10 with hn | hn
    · rw [Nat.toDigits_of_lt_base hn]
      interval_cases n <;> decide
    · rw [Nat.toDigits_of_base_le (by decide) hn, List.head?_append_of_ne_nil _ Nat.toDigits_ne_nil]
      exact ih (n / 10) (by omega) (by omega)

/-- What holds of the ten digits holds of every digit. -/
theorem forall_isDigit {p : Char → Prop} (h : ∀ n < 10, p (Char.ofNat (48 + n))) {c : Char}
    (hc : c.isDigit = true) : p c := by
  obtain ⟨hl, hu⟩ := toNat_of_isDigit hc
  have hp := h (c.toNat - 48) (by omega)
  rwa [show 48 + (c.toNat - 48) = c.toNat by omega, Char.ofNat_toNat] at hp

/-! ### Respelling -/

namespace Literal

/-- A literal as it is respelled. -/
def source : Literal → Text
  | decimal n => Text.ofNat n
  | octal d ds => '0' :: 'o' :: (d :: ds).map octalChar

end Literal

/-- A lexeme as it is respelled. -/
def Lexeme.source : Lexeme → Text
  | literal l => l.source
  | l => l.text

def Lexeme.isLiteral : Lexeme → Bool
  | literal _ => true
  | _ => false

theorem isDigit_octalChar (d : Fin 8) : (octalChar d).isDigit = true := by revert d; decide

theorem isOctalDigit_octalChar (d : Fin 8) : isOctalDigit (octalChar d) = true := by
  revert d; decide

theorem Literal.text_eq_cons (l : Literal) : ∃ c r, l.text = c :: r ∧ c.isDigit = true := by
  cases l with
  | decimal n =>
    obtain ⟨c, r, ht, hd, -⟩ := ofNat_eq_cons n
    exact ⟨c, r, ht, hd⟩
  | octal d ds => exact ⟨'0', _, rfl, by decide⟩

theorem Literal.source_eq_cons (l : Literal) : ∃ c r, l.source = c :: r ∧ c.isDigit = true := by
  cases l with
  | decimal n => exact text_eq_cons (decimal n)
  | octal d ds => exact ⟨'0', _, rfl, by decide⟩

theorem Lexeme.source_eq_text {l : Lexeme} (h : l.isLiteral = false) : l.source = l.text := by
  cases l with
  | literal l => cases h
  | _ => rfl

theorem Lexeme.text_eq_cons {l : Lexeme} (h : l.isLiteral = false) :
    ∃ c r, l.text = c :: r ∧ c ∈ symbolChars ∧
      c ∈ if l.startsOperand then operandChars else operatorChars := by
  cases l with
  | literal l => cases h
  | unary op => cases op <;> exact ⟨_, _, rfl, by decide, by decide⟩
  | binary op => cases op <;> exact ⟨_, _, rfl, by decide, by decide⟩
  | opening => exact ⟨_, _, rfl, by decide, by decide⟩
  | closing => exact ⟨_, _, rfl, by decide, by decide⟩

/-- A way of writing is right if it writes literals with a digit first and the rest as it is. -/
theorem begins_of {write : Lexeme → Text}
    (hl : ∀ l, ∃ c r, write (.literal l) = c :: r ∧ c.isDigit = true)
    (ho : ∀ l, l.isLiteral = false → write l = l.text) : Begins write := by
  have hdigit : ∀ c, c.isDigit = true → c ≠ ' ' ∧ c ∈ operandChars := fun c hc =>
    forall_isDigit (p := fun c => c ≠ ' ' ∧ c ∈ operandChars) (by decide) hc
  have hsymbol : ∀ c ∈ symbolChars, c ≠ ' ' := by decide
  intro l
  cases h : l.isLiteral with
  | true =>
    cases l with
    | literal l =>
      obtain ⟨c, r, ht, hc⟩ := hl l
      exact ⟨c, r, ht, hdigit c hc⟩
    | _ => cases h
  | false =>
    obtain ⟨c, r, ht, hs, hc⟩ := l.text_eq_cons h
    exact ⟨c, r, (ho l h).trans ht, hsymbol c hs, hc⟩

theorem begins_text : Begins Lexeme.text := begins_of Literal.text_eq_cons fun _ _ => rfl

theorem begins_source : Begins Lexeme.source :=
  begins_of Literal.source_eq_cons fun _ h => Lexeme.source_eq_text h

theorem space_mem_nextChars (l : Lexeme) : ' ' ∈ l.nextChars := by
  unfold Lexeme.nextChars
  split_ifs <;> decide

theorem layout_cons (write : Lexeme → Text) (l : Lexeme) (n : ℕ) (ls : List (Lexeme × ℕ)) :
    layout write ((l, n) :: ls) = write l ++ (List.replicate n ' ' ++ layout write ls) := by
  simp [layout]

/-- What a lexeme and its spaces are followed by. -/
theorem goesOn_layout {write : Lexeme → Text} (hw : Begins write) {l : Lexeme} (n : ℕ)
    {ls : List (Lexeme × ℕ)} (hc : ∀ l' ∈ (ls.map Prod.fst).head?, Follows l l') :
    GoesOn l (List.replicate n ' ' ++ layout write ls) := by
  cases n with
  | succ n =>
    rintro c ⟨⟩
    exact space_mem_nextChars l
  | zero =>
    cases ls with
    | nil => rintro c ⟨⟩
    | cons p ls =>
      obtain ⟨l', m⟩ := p
      obtain ⟨c, r, ht, -, hm⟩ := hw l'
      have hf : l.endsOperand = !l'.startsOperand := hc l' rfl
      rintro d hd
      obtain rfl : c = d := by simpa [layout, ht] using hd
      rw [Lexeme.nextChars, hf]
      cases hs : l'.startsOperand with
      | true => simpa [hs] using hm
      | false => simpa [hs] using hm

theorem respellFrom_cons {free : Bool} {c : Char} {r : Text}
    (h : c = '0' → free = true → r.takeWhile isOctalDigit = []) :
    respellFrom free (c :: r) = c :: respellFrom (!touches c) r := by
  have hn : ¬(free && c = '0' && r.takeWhile isOctalDigit ≠ [] &&
      !((r.dropWhile isOctalDigit).head?.any touches)) = true := by
    simp only [Bool.and_eq_true, decide_eq_true_eq]
    rintro ⟨⟨⟨hf, hc⟩, hne⟩, -⟩
    exact hne (h hc hf)
  rw [respellFrom, if_neg hn]

theorem touches_of_isDigit {c : Char} (h : c.isDigit = true) : touches c = true :=
  forall_isDigit (p := fun c => touches c = true) (by decide) h

/-- What touches stays as it is behind a touching character. -/
theorem respellFrom_touching {w : Text} (hw : ∀ c ∈ w, touches c = true) (rest : Text) :
    respellFrom false (w ++ rest) = w ++ respellFrom false rest := by
  induction w with
  | nil => rfl
  | cons c w ih =>
    obtain ⟨hc, hw⟩ := List.forall_mem_cons.mp hw
    rw [List.cons_append, respellFrom_cons (fun _ hf => absurd hf (by decide)), hc, Bool.not_true,
      ih hw]
    rfl

/-! ### Stretches -/

/-- A text ends, or a character stands that does not touch the one before. -/
def Detached (rest : Text) : Prop := ∀ c ∈ rest.head?, touches c = false

theorem isDigit_of_isOctalDigit {c : Char} (h : isOctalDigit c = true) : c.isDigit = true := by
  simp only [isOctalDigit, Char.isDigit, Bool.and_eq_true, decide_eq_true_eq, Char.le_def,
    UInt32.le_iff_toNat_le] at h ⊢
  exact ⟨h.1, h.2.trans (by decide)⟩

theorem touches_of_isOctalDigit {c : Char} (h : isOctalDigit c = true) : touches c = true :=
  touches_of_isDigit (isDigit_of_isOctalDigit h)

section Detached
variable {rest : Text} (h : Detached rest)
include h

/-- Where no numeral can begin it does not matter what stands before. -/
theorem Detached.respellFrom_eq (free : Bool) : respellFrom free rest = respellOctals rest := by
  cases rest with
  | nil => rfl
  | cons c r =>
    have hc : c ≠ '0' := by
      rintro rfl
      exact absurd (h '0' rfl) (by decide)
    rw [respellOctals, respellFrom_cons (fun h0 => absurd h0 hc),
      respellFrom_cons (fun h0 => absurd h0 hc)]

theorem Detached.span : rest.takeWhile isOctalDigit = [] ∧ rest.dropWhile isOctalDigit = rest := by
  cases rest with
  | nil => exact ⟨rfl, rfl⟩
  | cons c r =>
    have hc : isOctalDigit c = false := by
      by_contra ho
      exact absurd (h c rfl) (by simp [touches_of_isOctalDigit (Bool.of_not_eq_false ho)])
    simp [hc]

/-- Of a stretch that is no octal numeral from end to end nothing is respelled. -/
theorem Detached.respell_other (free : Bool) {w : Text} (hw : ∀ c ∈ w, touches c = true)
    (ho : ∀ r, w = '0' :: r → r ≠ [] → ∃ c ∈ r, isOctalDigit c = false) :
    respellFrom free (w ++ rest) = w ++ respellOctals rest := by
  cases w with
  | nil => exact h.respellFrom_eq free
  | cons c r =>
    obtain ⟨hc, hr⟩ := List.forall_mem_cons.mp hw
    have hn : ¬(free && c = '0' && (r ++ rest).takeWhile isOctalDigit ≠ [] &&
        !(((r ++ rest).dropWhile isOctalDigit).head?.any touches)) = true := by
      simp only [Bool.and_eq_true, decide_eq_true_eq, Bool.not_eq_true']
      rintro ⟨⟨⟨-, rfl⟩, htake⟩, hdrop⟩
      by_cases hnil : r = []
      · subst hnil
        exact htake h.span.1
      · obtain ⟨d, hd, hoct⟩ := ho r rfl hnil
        -- the octal digits end within the stretch, before a character that touches them
        cases hsplit : r.dropWhile isOctalDigit with
        | nil =>
          rw [List.dropWhile_eq_nil_iff.mp hsplit d hd] at hoct
          cases hoct
        | cons e s =>
          have he : e ∈ r := (List.dropWhile_suffix _).subset (hsplit ▸ List.mem_cons_self)
          rw [List.dropWhile_append, hsplit] at hdrop
          simp [hr e he] at hdrop
    rw [List.cons_append, respellFrom, if_neg hn, hc, Bool.not_true, respellFrom_touching hr,
      h.respellFrom_eq]
    rfl

theorem Detached.respell_marked (free : Bool) {w : Text} (hw : ∀ c ∈ w, touches c = true)
    {m : Char} (hm : m ∈ w) (ho : isOctalDigit m = false) :
    respellFrom free (w ++ rest) = w ++ respellOctals rest := by
  refine h.respell_other free hw fun r ht _ => ⟨m, ?_, ho⟩
  refine (List.mem_cons.mp (ht ▸ hm)).resolve_left ?_
  rintro rfl
  cases ho

/-- An octal numeral gets its mark. -/
theorem Detached.respell_numeral {ds : Text} (hne : ds ≠ [])
    (ho : ∀ c ∈ ds, isOctalDigit c = true) :
    respellOctals ('0' :: (ds ++ rest)) = '0' :: 'o' :: (ds ++ respellOctals rest) := by
  have htake : (ds ++ rest).takeWhile isOctalDigit = ds := by
    rw [List.takeWhile_append_of_pos ho, h.span.1, List.append_nil]
  have hdrop : (ds ++ rest).dropWhile isOctalDigit = rest := by
    rw [List.dropWhile_append_of_pos ho, h.span.2]
  have hend : rest.head?.any touches = false := by
    cases rest with
    | nil => rfl
    | cons c r => exact h c rfl
  have hcond : (true && '0' = '0' && (ds ++ rest).takeWhile isOctalDigit ≠ [] &&
      !(((ds ++ rest).dropWhile isOctalDigit).head?.any touches)) = true := by
    rw [htake, hdrop, hend]
    simp [hne]
  rw [respellOctals, respellFrom, if_pos hcond,
    respellFrom_touching fun c hc => touches_of_isOctalDigit (ho c hc), h.respellFrom_eq]

end Detached

/-- A text that ends with a character that does not touch is respelled by itself. -/
theorem respellFrom_append {free : Bool} {t : Text} (ht : ∀ c ∈ t.getLast?, touches c = false)
    (hfree : t = [] → free = true) (rest : Text) :
    respellFrom free (t ++ rest) = respellFrom free t ++ respellOctals rest := by
  induction t generalizing free with
  | nil =>
    rw [hfree rfl]
    rfl
  | cons c r ih =>
    by_cases hr : r = []
    · subst hr
      have hc : touches c = false := ht c rfl
      have h0 : c ≠ '0' := by
        rintro rfl
        cases hc
      rw [List.cons_append, List.nil_append, respellFrom_cons fun h => absurd h h0,
        respellFrom_cons fun h => absurd h h0, hc]
      rfl
    · rw [List.getLast?_cons_of_ne_nil hr] at ht
      -- the octal digits after a zero end before the last character
      have hdrop :
          ((r ++ rest).dropWhile isOctalDigit).head? = (r.dropWhile isOctalDigit).head? := by
        have hne : r.dropWhile isOctalDigit ≠ [] := by
          intro hnil
          have hlast := ht _ (List.getLast?_eq_getLast_of_ne_nil hr)
          have hoct := List.dropWhile_eq_nil_iff.mp hnil _ (List.getLast_mem hr)
          rw [touches_of_isOctalDigit hoct] at hlast
          cases hlast
        rw [List.dropWhile_append, if_neg (by simpa using hne), List.head?_append_of_ne_nil _ hne]
      have htake : (r ++ rest).takeWhile isOctalDigit = [] ↔ r.takeWhile isOctalDigit = [] := by
        cases r with
        | nil => exact absurd rfl hr
        | cons d s => simp [List.takeWhile_cons]
      rw [List.cons_append, respellFrom, respellFrom, hdrop]
      simp only [ne_eq, htake, ih ht (fun h => absurd h hr)]
      split_ifs <;> rfl

theorem GoesOn.detached {l : Literal} {rest : Text} (h : GoesOn (.literal l) rest) :
    Detached rest := by
  have hc : ∀ c ∈ operatorChars, touches c = false := by decide
  exact fun c hm => hc c (h c hm)

theorem respell_decimal {free : Bool} {n : ℕ} {rest : Text}
    (hg : GoesOn (.literal (.decimal n)) rest) :
    respellFrom free (Text.ofNat n ++ rest) = Text.ofNat n ++ respellFrom false rest := by
  rw [hg.detached.respellFrom_eq]
  refine hg.detached.respell_other free (fun c hc => touches_of_isDigit (isDigit_ofNat c hc)) ?_
  intro r ht hne
  rcases Nat.eq_zero_or_pos n with rfl | hn
  · exact absurd (List.cons.inj ht).2.symm hne
  · exact absurd (by rw [ht]; rfl) (head?_ofNat hn)

theorem respell_octal {d : Fin 8} {ds : List (Fin 8)} {rest : Text}
    (hg : GoesOn (.literal (.octal d ds)) rest) :
    respellFrom true ((Literal.octal d ds).text ++ rest) =
      (Literal.octal d ds).source ++ respellFrom false rest := by
  rw [hg.detached.respellFrom_eq]
  refine hg.detached.respell_numeral (List.cons_ne_nil _ _) fun c hc => ?_
  obtain ⟨e, -, rfl⟩ := List.mem_map.mp hc
  exact isOctalDigit_octalChar e

/-- A lexeme is respelled by itself, and only a literal touches what comes after it. -/
theorem respell_lexeme {l : Lexeme} {free : Bool} {rest : Text}
    (hfree : l.isLiteral = true → free = true) (hg : GoesOn l rest) :
    respellFrom free (l.text ++ rest) = l.source ++ respellFrom (!l.isLiteral) rest := by
  have hop : ∀ c ∈ symbolChars, ∀ free r,
      respellFrom free (c :: r) = c :: respellFrom true r := by
    intro c hc free r
    have hn : ∀ c ∈ symbolChars, c ≠ '0' ∧ touches c = false := by decide
    obtain ⟨h0, ht⟩ := hn c hc
    rw [respellFrom_cons (fun h _ => absurd h h0), ht]
    rfl
  rcases l with (n | ⟨d, ds⟩) | op | op | _ | _
  · exact respell_decimal hg
  · rw [hfree rfl]
    exact respell_octal hg
  · cases op <;> exact hop _ (by decide) _ _
  · cases op
    case shiftLeft | shiftRight =>
      exact (hop _ (by decide) _ _).trans (congrArg _ (hop _ (by decide) _ _))
    all_goals exact hop _ (by decide) _ _
  · exact hop _ (by decide) _ _
  · exact hop _ (by decide) _ _

theorem respellFrom_spaces {free : Bool} (n : ℕ) (rest : Text) :
    respellFrom free (List.replicate n ' ' ++ rest) =
      List.replicate n ' ' ++ respellFrom (free || n ≠ 0) rest := by
  induction n generalizing free with
  | zero => simp
  | succ n ih =>
    have ht : touches ' ' = false := by decide
    rw [List.replicate_succ, List.cons_append, respellFrom_cons (fun h => absurd h (by decide)),
      ht, ih]
    simp

theorem respellOctals_layout {ls : List (Lexeme × ℕ)}
    (hc : (ls.map Prod.fst).IsChain Follows) :
    respellOctals (layout Lexeme.text ls) = layout Lexeme.source ls := by
  suffices hall : ∀ free : Bool,
      (∀ l ∈ (ls.map Prod.fst).head?, l.isLiteral = true → free = true) →
      respellFrom free (layout Lexeme.text ls) = layout Lexeme.source ls from
    hall true (fun _ _ _ => rfl)
  induction ls with
  | nil => intro free _; rfl
  | cons p ls ih =>
    obtain ⟨l, n⟩ := p
    intro free hfree
    obtain ⟨hnext, htail⟩ := List.isChain_cons.mp hc
    rw [layout_cons, layout_cons, respell_lexeme (hfree l rfl) (goesOn_layout begins_text n hnext),
      respellFrom_spaces, ih htail]
    -- no literal follows a literal
    intro l' hl' hlit
    have hf : l.endsOperand = !l'.startsOperand := hnext l' hl'
    cases l' with
    | literal _ =>
      cases l with
      | literal _ => cases hf
      | _ => rfl
    | _ => cases hlit

end HeaderBindings.Constant
