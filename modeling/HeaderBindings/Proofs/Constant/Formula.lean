import HeaderBindings.Constant.StringLiteral
import HeaderBindings.Proofs.Constant.FloatReading
import HeaderBindings.Proofs.Steps

/-!
# Formulas over numerals

A formula is an expression over integer and floating literals, three signs and ten binary operators.
It is spelled by texts, with the levels of the operators, parentheses anywhere, and blanks between
the numerals and the marks. What is seen of a text by its reader leaves out comments and the
backslashes that join lines.
-/
namespace HeaderBindings.Constant

open StringLiteral (isSourceBlank)

inductive Formula
  | integer (l : Literal)
  | float (l : FloatLiteral)
  | unary (op : UnaryOp) (f : Formula)
  | binary (op : BinaryOp) (left right : Formula)

/-! ### Values -/

def UnaryOp.meaningOn? : UnaryOp → Value → Option Value
  | op, .int a => some (.int (op.meaning a))
  | .plus, .float x => some (.float x)
  | .minus, .float x => some (.float (-x))
  | .complement, .float _ => none

def BinaryOp.floatMeaning? : BinaryOp → Float → Float → Option Float
  | .add, x, y => some (x + y)
  | .sub, x, y => some (x - y)
  | .mul, x, y => some (x * y)
  | .div, x, y => if y == 0.0 then none else some (x / y)
  | _, _, _ => none

/-- An integer beside a floating-point number is rounded first. -/
def BinaryOp.meaningOn? (op : BinaryOp) : Value → Value → Option Value
  | .int a, .int b => (op.meaning? a b).map .int
  | a, b => do
    let x ← a.toFloat.toOption
    let y ← b.toFloat.toOption
    (op.floatMeaning? x y).map .float

theorem UnaryOp.meaningOn?_of_apply {op : UnaryOp} {a v : Value} (h : op.apply a = .ok v) :
    op.meaningOn? a = some v := by
  cases a with
  | int n =>
    rw [op.apply_int] at h
    exact congrArg some (Except.ok.inj h)
  | float x =>
    cases op with
    | plus => exact congrArg some (Except.ok.inj h)
    | minus => exact congrArg some (Except.ok.inj h)
    | complement => cases h

/-- A shift that has a result is one that fits the memory. -/
theorem BinaryOp.shift_lt_of_onInts {a b n : ℤ} (h : BinaryOp.shiftLeft.onInts a b = .ok n)
    (ha : a ≠ 0) : b < Bits.shiftLimit := by
  by_contra hb
  have hb0 : ¬b < 0 := by omega
  have hlimit : ¬b.toNat < Bits.shiftLimit := by omega
  rw [onInts, if_neg hb0, Bits.shiftLeft, if_neg ha, if_neg hlimit] at h
  split_ifs at h

theorem BinaryOp.floatMeaning?_of_onFloats {op : BinaryOp} {a b : Value} {z : Float}
    (h : op.onFloats a b = .ok z) : (do
      let x ← a.toFloat.toOption
      let y ← b.toFloat.toOption
      op.floatMeaning? x y) = some z := by
  cases op with
  | add | sub | mul =>
    obtain ⟨x, hx, h⟩ := bind_eq_ok_iff.mp h
    obtain ⟨y, hy, h⟩ := bind_eq_ok_iff.mp h
    rw [hx, hy]
    exact congrArg some (Except.ok.inj h)
  | div =>
    obtain ⟨x, hx, h⟩ := bind_eq_ok_iff.mp h
    obtain ⟨y, hy, h⟩ := bind_eq_ok_iff.mp h
    rw [hx, hy]
    simp only [Except.toOption, floatMeaning?, Option.bind_eq_bind, Option.bind_some]
    split_ifs at h ⊢
    exact congrArg some (Except.ok.inj h)
  | mod | shiftLeft | shiftRight | bitAnd | bitOr | bitXor => cases h

theorem BinaryOp.meaningOn?_of_apply {op : BinaryOp} {a b v : Value} (h : op.apply a b = .ok v) :
    op.meaningOn? a b = some v := by
  have hfloats : (op.onFloats a b).map .float = .ok v → (do
      let x ← a.toFloat.toOption
      let y ← b.toFloat.toOption
      (op.floatMeaning? x y).map .float) = some v := by
    intro h
    cases hz : op.onFloats a b with
    | error e =>
      rw [hz] at h
      cases h
    | ok z =>
      rw [hz] at h
      obtain rfl : Value.float z = v := Except.ok.inj h
      have hmeaning := floatMeaning?_of_onFloats hz
      simp only [Option.bind_eq_bind, Option.bind_eq_some_iff] at hmeaning ⊢
      obtain ⟨x, hx, y, hy, hxy⟩ := hmeaning
      exact ⟨x, hx, y, hy, by rw [hxy]; rfl⟩
  cases a with
  | float x => exact hfloats h
  | int m =>
    cases b with
    | float y => exact hfloats h
    | int n =>
      have hfits : op = .shiftLeft → m ≠ 0 → n < Bits.shiftLimit := by
        rintro rfl hm
        cases hr : BinaryOp.shiftLeft.onInts m n with
        | error e =>
          rw [apply, hr] at h
          cases h
        | ok r => exact shift_lt_of_onInts hr hm
      have hint := op.apply_int hfits
      rw [h] at hint
      exact hint.symm

namespace Formula

/-- The value, unless an operator has none for its operands. -/
def value? : Formula → Option Value
  | integer l => some (.int l.value)
  | float l => some (.float l.float)
  | unary op f => f.value?.bind op.meaningOn?
  | binary op left right =>
    left.value?.bind fun a => right.value?.bind fun b => op.meaningOn? a b

def expr : Formula → Expr
  | integer l => .int l.value
  | float l => .float l.float
  | unary op f => .unary op f.expr
  | binary op left right => .binary op left.expr right.expr

theorem value?_of_eval {f : Formula} {v : Value} (h : f.expr.eval = .ok v) : f.value? = some v := by
  induction f generalizing v with
  | integer l => exact congrArg some (Except.ok.inj h)
  | float l => exact congrArg some (Except.ok.inj h)
  | unary op f ih =>
    obtain ⟨a, ha, h⟩ := bind_eq_ok_iff.mp h
    rw [value?, ih ha]
    exact UnaryOp.meaningOn?_of_apply (mapError_eq_ok_iff.mp h)
  | binary op left right ihl ihr =>
    obtain ⟨a, ha, h⟩ := bind_eq_ok_iff.mp h
    obtain ⟨b, hb, h⟩ := bind_eq_ok_iff.mp h
    rw [value?, ihl ha, ihr hb]
    exact BinaryOp.meaningOn?_of_apply (mapError_eq_ok_iff.mp h)

/-! ### Spelling -/

/-- A formula is spelled by a text as an expression of the given level, with blanks around its
parts. The two halves of a shift and the characters of a numeral stand together. -/
inductive Spelled : ℕ → Formula → Text → Prop
  | integer (l : Literal) : Spelled atomLevel (.integer l) l.text
  | float (l : FloatLiteral) : Spelled atomLevel (.float l) l.text
  | parens {level : ℕ} {f : Formula} {t : Text} (h : Spelled level f t) :
    Spelled atomLevel f ('(' :: (t ++ [')']))
  | unary {level : ℕ} {f : Formula} {t : Text} (op : UnaryOp) (hl : signLevel ≤ level)
    (h : Spelled level f t) : Spelled signLevel (.unary op f) (op.text ++ t)
  | binary {k k' : ℕ} {left right : Formula} {s t : Text} (op : BinaryOp) (hk : op.level ≤ k)
    (hk' : op.level < k') (hl : Spelled k left s) (hr : Spelled k' right t) :
    Spelled op.level (.binary op left right) (s ++ (op.text.toList ++ t))
  | before {level : ℕ} {f : Formula} {t : Text} {c : Char} (hc : isSourceBlank c = true)
    (h : Spelled level f t) : Spelled level f (c :: t)
  | after {level : ℕ} {f : Formula} {t : Text} {c : Char} (hc : isSourceBlank c = true)
    (h : Spelled level f t) : Spelled level f (t ++ [c])

section Spelled
variable {level : ℕ} {f : Formula} {t : Text} (h : Spelled level f t)
include h

theorem Spelled.blanks_append {b : Text} (hb : ∀ c ∈ b, isSourceBlank c = true) :
    Spelled level f (b ++ t) := by
  induction b with
  | nil => exact h
  | cons c b ih =>
    obtain ⟨hc, hb⟩ := List.forall_mem_cons.mp hb
    exact .before hc (ih hb)

theorem Spelled.append_blanks {b : Text} (hb : ∀ c ∈ b, isSourceBlank c = true) :
    Spelled level f (t ++ b) := by
  induction b generalizing t with
  | nil => rwa [List.append_nil]
  | cons c b ih =>
    obtain ⟨hc, hb⟩ := List.forall_mem_cons.mp hb
    have hnext := ih (.after hc h) hb
    rwa [List.append_assoc] at hnext

end Spelled

end Formula

/-! ### Comments -/

def isLineEnd (c : Char) : Bool := c = '\n' || c = '\r'

/-- What is seen of a text. `comment` tells that a comment has begun, which goes on to the end of
its line. -/
def visibleFrom : Bool → Text → Text
  | _, [] => []
  | comment, c :: r =>
    if isLineEnd c then c :: visibleFrom false r
    else if comment || c = '#' then visibleFrom true r
    else if c = '\\' then visibleFrom false r
    else c :: visibleFrom false r

/-- A text without its comments and without the backslashes that stand outside of them. -/
def visible (t : Text) : Text := visibleFrom false t

/-- Comments begin with this character, and lines are joined by the other one. -/
def hidingChars : List Char := ['#', '\\']

theorem not_mem_visibleFrom {c : Char} (hc : c ∈ hidingChars) (comment : Bool) (t : Text) :
    c ∉ visibleFrom comment t := by
  have hend : ∀ c ∈ hidingChars, isLineEnd c = false := by decide
  induction t generalizing comment with
  | nil => exact List.not_mem_nil
  | cons d r ih =>
    rw [visibleFrom]
    split_ifs with hline hcomment hback
    · refine List.not_mem_cons_of_ne_of_not_mem ?_ (ih _)
      rintro rfl
      rw [hend c hc] at hline
      cases hline
    · exact ih _
    · exact ih _
    · refine List.not_mem_cons_of_ne_of_not_mem ?_ (ih _)
      rintro rfl
      simp [hidingChars] at hc
      rcases hc with rfl | rfl
      · simp at hcomment
      · exact hback rfl

/-- All of a text is seen exactly if it holds no comment and no backslash. -/
theorem visible_eq_self_iff {t : Text} : visible t = t ↔ ∀ c ∈ hidingChars, c ∉ t := by
  constructor
  · intro h c hc
    rw [← h]
    exact not_mem_visibleFrom hc false t
  · intro h
    have hplain : ∀ c ∈ t, c ∉ hidingChars := fun c ht hc => h c hc ht
    clear h
    unfold visible
    induction t with
    | nil => rfl
    | cons c r ih =>
      obtain ⟨hc, hr⟩ := List.forall_mem_cons.mp hplain
      simp only [hidingChars, List.mem_cons, List.not_mem_nil, or_false, not_or] at hc
      simp [visibleFrom, hc, ih hr]

/-- No formula is spelled with a character that hides. -/
theorem Formula.Spelled.not_mem {level : ℕ} {f : Formula} {t : Text} (h : Spelled level f t) :
    ∀ c ∈ hidingChars, c ∉ t := by
  suffices hall : ∀ c ∈ t, c ∉ hidingChars from fun c hc ht => hall c ht hc
  have hblank : ∀ c, isSourceBlank c = true → c ∉ hidingChars := by
    intro c hc
    simp [isSourceBlank] at hc
    rcases hc with (((rfl | rfl) | rfl) | rfl) | rfl <;> decide
  induction h with
  | integer l =>
    exact fun c hc => forall_isDigit (p := (· ∉ hidingChars)) (by decide) (l.isDigit_of_mem c hc)
  | float l =>
    exact fun c hc => forall_isFloatChar (p := (· ∉ hidingChars)) (by decide) (by decide)
      (l.isFloatChar_text c hc)
  | parens h ih =>
    exact List.forall_mem_cons.mpr
      ⟨by decide, List.forall_mem_append.mpr ⟨ih, List.forall_mem_singleton.mpr (by decide)⟩⟩
  | unary op hl h ih =>
    refine List.forall_mem_append.mpr ⟨?_, ih⟩
    cases op <;> decide
  | binary op hk hk' hl hr ihl ihr =>
    refine List.forall_mem_append.mpr ⟨ihl, List.forall_mem_append.mpr ⟨?_, ihr⟩⟩
    cases op <;> decide
  | before hc h ih => exact List.forall_mem_cons.mpr ⟨hblank _ hc, ih⟩
  | after hc h ih =>
    exact List.forall_mem_append.mpr ⟨ih, List.forall_mem_singleton.mpr (hblank _ hc)⟩

end HeaderBindings.Constant
