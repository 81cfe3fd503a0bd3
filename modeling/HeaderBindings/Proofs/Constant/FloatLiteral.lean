import HeaderBindings.Constant.Literal
import HeaderBindings.Proofs.Constant.Respelling

/-!
# Floating literals and octal respelling

A text falls into stretches of characters that touch each other, and a stretch is respelled if it
is an octal numeral from end to end. A floating literal is one stretch, which its point or its mark
keeps from being a numeral, unless its exponent has a sign: the digits after the sign are a stretch
of their own.
-/
namespace HeaderBindings.Constant

open Text

/-! ### Literals -/

/-- A decimal digit. -/
def digitChar (d : Fin 10) : Char := Char.ofNat (48 + d)

inductive ExponentSign
  | plus | minus
deriving DecidableEq, Repr

namespace ExponentSign

def char : ExponentSign → Char
  | plus => '+'
  | minus => '-'

def value : ExponentSign → ℤ
  | plus => 1
  | minus => -1

end ExponentSign

/-- A mark, an optional sign, and at least one digit. -/
structure Exponent where
  isUpper : Bool
  sign : Option ExponentSign
  first : Fin 10
  rest : List (Fin 10)
deriving DecidableEq, Repr

namespace Exponent

def mark (e : Exponent) : Char := if e.isUpper then 'E' else 'e'

def digits (e : Exponent) : List (Fin 10) := e.first :: e.rest

/-- The mark and the sign. -/
def lead (e : Exponent) : Text := e.mark :: (e.sign.map ExponentSign.char).toList

def text (e : Exponent) : Text := e.lead ++ e.digits.map digitChar

def value (e : Exponent) : ℤ :=
  (e.sign.map ExponentSign.value).getD 1 * Text.ofDigits 10 (e.digits.map Fin.val)

/-- After a sign stands what could be an octal numeral. -/
def IsOctal (e : Exponent) : Prop :=
  e.sign.isSome ∧ e.first = 0 ∧ e.rest ≠ [] ∧ ∀ d ∈ e.rest, d.val < 8

instance : DecidablePred IsOctal := fun e =>
  inferInstanceAs (Decidable (e.sign.isSome ∧ e.first = 0 ∧ e.rest ≠ [] ∧ ∀ d ∈ e.rest, d.val < 8))

/-- An exponent as it is respelled. -/
def source (e : Exponent) : Text :=
  if e.IsOctal then e.lead ++ '0' :: 'o' :: e.rest.map digitChar else e.text

end Exponent

/-- A floating literal: digits with a point, with an exponent, or with both. -/
structure FloatLiteral where
  whole : List (Fin 10)
  fraction : Option (List (Fin 10))
  exponent : Option Exponent
  hasDigit : whole ++ fraction.getD [] ≠ []
  isFloat : fraction.isSome ∨ exponent.isSome

namespace FloatLiteral

/-- The places after the point. -/
def places (l : FloatLiteral) : List (Fin 10) := l.fraction.getD []

/-- What stands before the exponent. -/
def mantissa (l : FloatLiteral) : Text :=
  l.whole.map digitChar ++ (l.fraction.map fun ds => '.' :: ds.map digitChar).getD []

def text (l : FloatLiteral) : Text := l.mantissa ++ (l.exponent.map Exponent.text).getD []

/-- A literal as it is respelled. -/
def source (l : FloatLiteral) : Text := l.mantissa ++ (l.exponent.map Exponent.source).getD []

/-- The number that is meant. -/
def value (l : FloatLiteral) : ℚ :=
  Text.ofDigits 10 ((l.whole ++ l.places).map Fin.val) *
    10 ^ ((l.exponent.map Exponent.value).getD 0 - l.places.length)

/-- The digits of the exponent are respelled. -/
def HasOctalExponent (l : FloatLiteral) : Prop := ∃ e ∈ l.exponent, e.IsOctal

end FloatLiteral

/-! ### Characters -/

theorem isDigit_digitChar (d : Fin 10) : (digitChar d).isDigit = true := by revert d; decide

theorem isDigit_of_mem_digits {ds : List (Fin 10)} : ∀ c ∈ ds.map digitChar, c.isDigit = true := by
  intro c hc
  obtain ⟨d, -, rfl⟩ := List.mem_map.mp hc
  exact isDigit_digitChar d

theorem isOctalDigit_digitChar (d : Fin 10) : isOctalDigit (digitChar d) = true ↔ d.val < 8 := by
  revert d
  decide

theorem Exponent.mark_eq (e : Exponent) : e.mark = 'e' ∨ e.mark = 'E' := by
  rw [mark]
  split_ifs
  · exact .inr rfl
  · exact .inl rfl

theorem ExponentSign.touches_char (s : ExponentSign) : touches s.char = false := by
  cases s <;> decide

theorem ExponentSign.char_ne_zero (s : ExponentSign) : s.char ≠ '0' := by cases s <;> decide

theorem touches_of_mem_digits {ds : List (Fin 10)} : ∀ c ∈ ds.map digitChar, touches c = true :=
  fun c hc => touches_of_isDigit (isDigit_of_mem_digits c hc)

theorem FloatLiteral.mem_mantissa {l : FloatLiteral} :
    ∀ c ∈ l.mantissa, c.isDigit = true ∨ c = '.' := by
  refine List.forall_mem_append.mpr ⟨fun c hc => .inl (isDigit_of_mem_digits c hc), ?_⟩
  cases l.fraction with
  | none => exact fun c hc => absurd hc List.not_mem_nil
  | some ds =>
    exact List.forall_mem_cons.mpr ⟨.inr rfl, fun c hc => .inl (isDigit_of_mem_digits c hc)⟩

theorem FloatLiteral.touches_of_mem_mantissa {l : FloatLiteral} :
    ∀ c ∈ l.mantissa, touches c = true := by
  intro c hc
  rcases l.mem_mantissa c hc with hd | rfl
  · exact touches_of_isDigit hd
  · decide

/-! ### Respelling -/

section Respelling
variable {rest : Text} (h : Detached rest)
include h

/-- The digits behind a sign are a stretch. -/
theorem Exponent.respell_digits {e : Exponent} (hs : e.sign.isSome) :
    respellOctals (e.digits.map digitChar ++ rest) =
      (if e.IsOctal then '0' :: 'o' :: e.rest.map digitChar else e.digits.map digitChar) ++
        respellOctals rest := by
  have hocts : (∀ c ∈ e.rest.map digitChar, isOctalDigit c = true) ↔ ∀ d ∈ e.rest, d.val < 8 := by
    simp only [List.forall_mem_map, isOctalDigit_digitChar]
  split_ifs with ho
  · obtain ⟨-, hfirst, hne, hoct⟩ := ho
    rw [digits, hfirst]
    exact h.respell_numeral (by simpa using hne) (hocts.mpr hoct)
  · refine h.respell_other true touches_of_mem_digits fun r ht hne => ?_
    obtain ⟨h0, rfl⟩ := List.cons.inj ht
    by_contra hall
    simp only [not_exists, not_and, Bool.not_eq_false] at hall
    have hfirst : e.first = 0 := by
      have hinj : ∀ d : Fin 10, digitChar d = '0' → d = 0 := by decide
      exact hinj _ h0
    exact ho ⟨hs, hfirst, by simpa using hne, hocts.mp hall⟩

/-- An exponent goes on a stretch before it up to its sign. -/
theorem Exponent.respell_append (e : Exponent) {w : Text} (hw : ∀ c ∈ w, touches c = true) :
    respellOctals (w ++ (e.text ++ rest)) = w ++ (e.source ++ respellOctals rest) := by
  have hmark : touches e.mark = true ∧ isOctalDigit e.mark = false := by
    rcases e.mark_eq with hc | hc <;> rw [hc] <;> decide
  have hlead : ∀ c ∈ w ++ [e.mark], touches c = true :=
    List.forall_mem_append.mpr ⟨hw, List.forall_mem_singleton.mpr hmark.1⟩
  cases hs : e.sign with
  | none =>
    have ho : ¬e.IsOctal := fun ho => by simp [IsOctal, hs] at ho
    have hall : ∀ c ∈ w ++ e.mark :: e.digits.map digitChar, touches c = true :=
      List.forall_mem_append.mpr ⟨hw, List.forall_mem_cons.mpr ⟨hmark.1, touches_of_mem_digits⟩⟩
    have hrun := h.respell_marked true hall (m := e.mark) (by simp) hmark.2
    simpa [source, if_neg ho, text, lead, hs, respellOctals] using hrun
  | some s =>
    have hdetached : Detached (s.char :: (e.digits.map digitChar ++ rest)) := by
      rintro c ⟨⟩
      exact s.touches_char
    have hrun := hdetached.respell_marked true hlead (m := e.mark) (by simp) hmark.2
    have hsign : respellOctals (s.char :: (e.digits.map digitChar ++ rest)) =
        s.char :: respellOctals (e.digits.map digitChar ++ rest) := by
      rw [respellOctals, respellFrom_cons fun h0 => absurd h0 s.char_ne_zero, s.touches_char]
      rfl
    have hdigits := e.respell_digits h (by simp [hs])
    rw [hsign, hdigits] at hrun
    rw [source]
    split_ifs at hrun ⊢ with ho <;>
      simpa [text, lead, hs, respellOctals, List.append_assoc] using hrun

/-- A literal is respelled in its exponent only. -/
theorem FloatLiteral.respellOctals_append (l : FloatLiteral) :
    respellOctals (l.text ++ rest) = l.source ++ respellOctals rest := by
  have hm := l.touches_of_mem_mantissa
  rcases he : l.exponent with _ | e
  · obtain ⟨ds, hds⟩ := Option.isSome_iff_exists.mp (l.isFloat.resolve_right (by simp [he]))
    have hpoint : '.' ∈ l.mantissa := by simp [mantissa, hds]
    simp only [text, source, he, Option.map_none, Option.getD_none, List.append_nil]
    exact h.respell_marked true hm hpoint (by decide)
  · simp only [text, source, he, Option.map_some, Option.getD_some, List.append_assoc]
    exact e.respell_append h hm

end Respelling

namespace FloatLiteral
variable (l : FloatLiteral)

/-- A literal between characters that do not touch it is respelled by itself. -/
theorem respellOctals_between {before after : Text} (hb : ∀ c ∈ before.getLast?, touches c = false)
    (ha : Detached after) : respellOctals (before ++ l.text ++ after) =
      respellOctals before ++ l.source ++ respellOctals after := by
  rw [List.append_assoc, respellOctals, respellFrom_append hb (fun _ => rfl),
    l.respellOctals_append ha, ← List.append_assoc]
  rfl

/-- A literal stays as it is unless its exponent is octal. -/
theorem source_eq_text_iff : l.source = l.text ↔ ¬l.HasOctalExponent := by
  rw [source, text, HasOctalExponent, List.append_cancel_left_eq]
  rcases l.exponent with _ | e
  · simp
  · simp only [Option.map_some, Option.getD_some, Option.mem_def, Option.some.injEq,
      exists_eq_left', Exponent.source]
    split_ifs with ho
    · refine iff_of_false (fun heq => ?_) (not_not_intro ho)
      have hlength := congrArg List.length heq
      simp [Exponent.text, Exponent.digits] at hlength
    · exact iff_of_true rfl ho

theorem respellOctals_between_iff {before after : Text}
    (hb : ∀ c ∈ before.getLast?, touches c = false) (ha : Detached after) :
    respellOctals (before ++ l.text ++ after) =
      respellOctals before ++ l.text ++ respellOctals after ↔ ¬l.HasOctalExponent := by
  rw [l.respellOctals_between hb ha, List.append_left_inj, List.append_right_inj,
    source_eq_text_iff]

end FloatLiteral

end HeaderBindings.Constant
