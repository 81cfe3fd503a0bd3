import HeaderBindings.Constant.Nesting
import HeaderBindings.Constant.Literal
import Mathlib.Data.Int.Bitwise

/-!
# Trees of integer expressions

A tree is an expression over integer literals, three signs and ten binary operators; its value is
over the integers without bound. It is spelled by lexemes, with parentheses where the level of an
operand asks for them or anywhere else.
-/
namespace HeaderBindings.Constant

/-- A decimal literal, or an octal one that has a zero before its digits. -/
inductive Literal
  | decimal (n : ℕ)
  | octal (first : Fin 8) (more : List (Fin 8))

inductive Tree
  | literal (l : Literal)
  | unary (op : UnaryOp) (t : Tree)
  | binary (op : BinaryOp) (left right : Tree)

/-! ### Values -/

def Literal.value : Literal → ℕ
  | .decimal n => n
  | .octal d ds => Text.ofDigits 8 ((d :: ds).map Fin.val)

def UnaryOp.meaning : UnaryOp → ℤ → ℤ
  | .plus, a => a
  | .minus, a => -a
  | .complement, a => a.lnot

/-- Division truncates towards zero, the remainder has the sign of the dividend, and the bits of a
number are those of its two's complement. -/
def BinaryOp.meaning? : BinaryOp → ℤ → ℤ → Option ℤ
  | .add, a, b => some (a + b)
  | .sub, a, b => some (a - b)
  | .mul, a, b => some (a * b)
  | .div, a, b => if b = 0 then none else some (a.tdiv b)
  | .mod, a, b => if b = 0 then none else some (a.tmod b)
  | .shiftLeft, a, b => if b < 0 then none else some (a * 2 ^ b.toNat)
  | .shiftRight, a, b => if b < 0 then none else some (a / 2 ^ b.toNat)
  | .bitAnd, a, b => some (a.land b)
  | .bitOr, a, b => some (a.lor b)
  | .bitXor, a, b => some (a.xor b)

namespace Tree

/-- The value, unless something is divided by zero or shifted by a negative count. -/
def value? : Tree → Option ℤ
  | literal l => some l.value
  | unary op t => t.value?.map op.meaning
  | binary op left right =>
    left.value?.bind fun a => right.value?.bind fun b => op.meaning? a b

def expr : Tree → Expr
  | literal l => .int l.value
  | unary op t => .unary op t.expr
  | binary op left right => .binary op left.expr right.expr

def height : Tree → ℕ
  | literal _ => 1
  | unary _ t => t.height + 1
  | binary _ left right => max left.height right.height + 1

/-- The tree as it is read. -/
def node : Tree → Node
  | literal l => .around (.int l.value) []
  | unary op t => .around (.unary op t.node.expr) [t.node]
  | binary op left right =>
    .around (.binary op left.node.expr right.node.expr) [left.node, right.node]

theorem node_expr (t : Tree) : t.node.expr = t.expr := by
  induction t with
  | literal l => rfl
  | unary op t ih => simp only [node, Node.around, ih, expr]
  | binary op left right ihl ihr => simp only [node, Node.around, ihl, ihr, expr]

theorem node_depth (t : Tree) : t.node.depth = t.height := by
  induction t with
  | literal l => rfl
  | unary op t ih => simp [node, Node.around, Node.deepest, ih, height]
  | binary op left right ihl ihr => simp [node, Node.around, Node.deepest, ihl, ihr, height]

/-- No shift that is carried out exceeds the memory. -/
def ShiftsFit : Tree → Prop
  | literal _ => True
  | unary _ t => t.ShiftsFit
  | binary op left right =>
    left.ShiftsFit ∧ ∀ a, left.value? = some a → right.ShiftsFit ∧
      (op = .shiftLeft → a ≠ 0 → ∀ b, right.value? = some b → b < Bits.shiftLimit)

end Tree

/-! ### Faults -/

/-- Something is divided by zero or shifted by a negative count. -/
inductive Tree.Faults : Tree → Prop
  | unary (op : UnaryOp) {t : Tree} (h : t.Faults) : Faults (.unary op t)
  | left (op : BinaryOp) {left : Tree} (right : Tree) (h : left.Faults) :
    Faults (.binary op left right)
  | right (op : BinaryOp) (left : Tree) {right : Tree} (h : right.Faults) :
    Faults (.binary op left right)
  | division {op : BinaryOp} (left : Tree) {right : Tree} (ho : op = .div ∨ op = .mod)
    (h : right.value? = some 0) : Faults (.binary op left right)
  | shift {op : BinaryOp} (left : Tree) {right : Tree} (ho : op = .shiftLeft ∨ op = .shiftRight)
    {count : ℤ} (h : right.value? = some count) (hneg : count < 0) : Faults (.binary op left right)

theorem BinaryOp.meaning?_eq_none_iff {op : BinaryOp} {a b : ℤ} : op.meaning? a b = none ↔
    (op = .div ∨ op = .mod) ∧ b = 0 ∨ (op = .shiftLeft ∨ op = .shiftRight) ∧ b < 0 := by
  cases op <;> simp [meaning?]

theorem Tree.value?_eq_none_iff {t : Tree} : t.value? = none ↔ t.Faults := by
  constructor
  · intro h
    induction t with
    | literal l => cases h
    | unary op t ih => exact .unary op (ih (by simpa [value?] using h))
    | binary op left right ihl ihr =>
      cases hl : left.value? with
      | none => exact .left op right (ihl hl)
      | some a =>
        cases hr : right.value? with
        | none => exact .right op left (ihr hr)
        | some b =>
          have hnone : op.meaning? a b = none := by simpa [value?, hl, hr] using h
          rcases BinaryOp.meaning?_eq_none_iff.mp hnone with ⟨ho, rfl⟩ | ⟨ho, hneg⟩
          · exact .division left ho hr
          · exact .shift left ho hr hneg
  · intro h
    have hop : ∀ {op : BinaryOp} {left right : Tree} {b : ℤ}, right.value? = some b →
        (∀ a, op.meaning? a b = none) → (Tree.binary op left right).value? = none := by
      intro op left right b hr hnone
      cases hl : left.value? with
      | none => simp [value?, hl]
      | some a => simp [value?, hl, hr, hnone a]
    induction h with
    | unary op h ih => simp [value?, ih]
    | left op right h ih => simp [value?, ih]
    | right op left h ih =>
      cases hl : left.value? <;> simp [value?, hl, ih]
    | division left ho h =>
      exact hop h fun a => BinaryOp.meaning?_eq_none_iff.mpr (.inl ⟨ho, rfl⟩)
    | shift left ho h hneg =>
      exact hop h fun a => BinaryOp.meaning?_eq_none_iff.mpr (.inr ⟨ho, hneg⟩)

/-! ### Operators on integers -/

namespace Bits

theorem without_eq_ldiff (m n : ℕ) : without m n = Nat.ldiff m n := by
  refine Nat.eq_of_testBit_eq (fun i => ?_)
  rw [without, Nat.testBit_xor, Nat.testBit_and, Nat.testBit_ldiff]
  cases m.testBit i <;> cases n.testBit i <;> rfl

theorem and_eq_land (a b : ℤ) : and a b = a.land b := by
  cases a <;> cases b <;> simp [and, Int.land, without_eq_ldiff]

theorem or_eq_lor (a b : ℤ) : or a b = a.lor b := by
  cases a <;> cases b <;> simp [or, Int.lor, without_eq_ldiff]

theorem xor_eq_xor (a b : ℤ) : xor a b = a.xor b := by
  cases a <;> cases b <;> simp [xor, Int.xor]

theorem complement_eq_lnot (a : ℤ) : complement a = a.lnot := by
  cases a with
  | ofNat n => simp only [complement, Int.lnot, Int.ofNat_eq_natCast]; omega
  | negSucc n => simp only [complement, Int.lnot]; omega

theorem shiftRight_eq (a : ℤ) (n : ℕ) : shiftRight a n = a / 2 ^ n := by
  rw [shiftRight, Int.shiftRight_eq_div_pow]
  norm_cast

theorem shiftLeft_eq {a : ℤ} {n : ℕ} (h : a ≠ 0 → n < shiftLimit) :
    shiftLeft a n = .ok (a * 2 ^ n) := by
  unfold shiftLeft
  split_ifs with ha hn
  · rw [ha, zero_mul]
  · simp [Decimal.twoTo]
  · exact absurd (h ha) hn
  · exact absurd (h ha) hn

end Bits

theorem UnaryOp.apply_int (op : UnaryOp) (a : ℤ) :
    op.apply (.int a) = .ok (.int (op.meaning a)) := by
  cases op with
  | plus => rfl
  | minus => rfl
  | complement => rw [UnaryOp.apply, Bits.complement_eq_lnot]; rfl

/-- An operator gives its meaning, unless a shift exceeds the memory. -/
theorem BinaryOp.apply_int (op : BinaryOp) {a b : ℤ}
    (h : op = .shiftLeft → a ≠ 0 → b < Bits.shiftLimit) :
    (op.apply (.int a) (.int b)).toOption = (op.meaning? a b).map .int := by
  rw [BinaryOp.apply]
  cases op with
  | add => rfl
  | sub => rfl
  | mul => rfl
  | div => by_cases hb : b = 0 <;> simp [onInts, meaning?, hb, Except.map, Except.toOption]
  | mod => by_cases hb : b = 0 <;> simp [onInts, meaning?, hb, Except.map, Except.toOption]
  | shiftLeft =>
    by_cases hb : b < 0
    · simp [onInts, meaning?, hb, Except.map, Except.toOption]
    · have hs : Bits.shiftLeft a b.toNat = .ok (a * 2 ^ b.toNat) :=
        Bits.shiftLeft_eq (fun ha => by have := h rfl ha; omega)
      simp [onInts, meaning?, hb, hs, Except.map, Except.toOption]
  | shiftRight =>
    by_cases hb : b < 0 <;>
      simp [onInts, meaning?, hb, Bits.shiftRight_eq, Except.map, Except.toOption]
  | bitAnd => rw [onInts, Bits.and_eq_land]; rfl
  | bitOr => rw [onInts, Bits.or_eq_lor]; rfl
  | bitXor => rw [onInts, Bits.xor_eq_xor]; rfl

theorem toOption_bind {α β ε : Type} (r : Except ε α) (f : α → Except ε β) :
    (r >>= f).toOption = r.toOption.bind fun a => (f a).toOption := by
  cases r <;> rfl

theorem toOption_mapError {α ε ε' : Type} (r : Except ε α) (f : ε → ε') :
    (r.mapError f).toOption = r.toOption := by
  cases r <;> rfl

namespace Tree

/-- An expression is evaluated to the value of its tree. -/
theorem eval_expr {t : Tree} (h : t.ShiftsFit) :
    t.expr.eval.toOption = t.value?.map .int := by
  induction t with
  | literal l => rfl
  | unary op t ih =>
    rw [expr, Expr.eval, toOption_bind, ih h, value?]
    cases t.value? with
    | none => rfl
    | some a =>
      simp only [Option.map_some, Option.bind_some, toOption_mapError, UnaryOp.apply_int]
      rfl
  | binary op left right ihl ihr =>
    obtain ⟨hl, hr⟩ := h
    rw [expr, Expr.eval, toOption_bind, ihl hl, value?]
    cases hvl : left.value? with
    | none => rfl
    | some a =>
      obtain ⟨hfit, hshift⟩ := hr a hvl
      simp only [Option.map_some, Option.bind_some]
      rw [toOption_bind, ihr hfit]
      cases hvr : right.value? with
      | none => rfl
      | some b =>
        simp only [Option.map_some, Option.bind_some, toOption_mapError]
        exact op.apply_int (fun ho ha => hshift ho ha b hvr)

end Tree
end HeaderBindings.Constant
