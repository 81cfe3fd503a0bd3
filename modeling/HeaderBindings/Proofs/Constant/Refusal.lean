import HeaderBindings.Constant.Grammar
import HeaderBindings.Proofs.Steps

/-!
# Which goals have a value

A form without a value is refused wherever it stands, so what is read with a value is read as a
number, in parentheses, behind a sign or beside an operator. From an expression down to its loosest
operators every goal only passes on what the next one reads.
-/
namespace HeaderBindings.Constant

open Grammar

/-! ### Expressions -/

def Expr.HasValue (e : Expr) : Prop := ∃ v, e.eval = .ok v

namespace Expr

theorem not_hasValue_refused (form : Form) : ¬(Expr.refused form).HasValue := by
  rintro ⟨v, ⟨⟩⟩

theorem HasValue.of_unary {op : UnaryOp} {e : Expr} (h : (Expr.unary op e).HasValue) :
    e.HasValue := by
  obtain ⟨v, hv⟩ := h
  obtain ⟨a, ha, -⟩ := bind_eq_ok_iff.mp hv
  exact ⟨a, ha⟩

theorem HasValue.of_binary {op : BinaryOp} {left right : Expr}
    (h : (Expr.binary op left right).HasValue) : left.HasValue ∧ right.HasValue := by
  obtain ⟨v, hv⟩ := h
  obtain ⟨a, ha, hv⟩ := bind_eq_ok_iff.mp hv
  obtain ⟨b, hb, -⟩ := bind_eq_ok_iff.mp hv
  exact ⟨⟨a, ha⟩, ⟨b, hb⟩⟩

end Expr

/-! ### Forms without a value -/

theorem eq_of_skip? {s : Symbol} {ts r : List Token} (h : skip? s ts = some r) :
    ts = .symbol s :: r := by
  unfold skip? at h
  split at h
  · split_ifs at h with hs
    rw [hs, Option.some.inj h]
  · cases h

section Refused
variable {self : Goal → List Token → Reading} {ts rest : List Token} {n : Node}

theorem not_hasValue_yielded (h : yielded self ts = some (n, rest)) : ¬n.expr.HasValue := by
  obtain ⟨r, -, h⟩ := Option.bind_eq_some_iff.mp h
  split at h
  · obtain ⟨p, -, h⟩ := Option.bind_eq_some_iff.mp h
    cases h
    exact Expr.not_hasValue_refused _
  · split_ifs at h
    · cases h
      exact Expr.not_hasValue_refused _
    · obtain ⟨p, -, h⟩ := Option.bind_eq_some_iff.mp h
      dsimp only at h
      split_ifs at h
      · obtain ⟨q, -, h⟩ := Option.bind_eq_some_iff.mp h
        cases h
        exact Expr.not_hasValue_refused _
      · cases h
        exact Expr.not_hasValue_refused _

theorem not_hasValue_strings (h : strings self ts = some (n, rest)) : ¬n.expr.HasValue := by
  unfold strings at h
  dsimp only at h
  split_ifs at h
  · cases h
    exact Expr.not_hasValue_refused _
  · obtain ⟨ns, -, h⟩ := Option.bind_eq_some_iff.mp h
    cases h
    exact Expr.not_hasValue_refused _

theorem not_hasValue_bracketed (h : bracketed self ts = some (n, rest)) : ¬n.expr.HasValue := by
  unfold bracketed at h
  split at h
  · cases h
    exact Expr.not_hasValue_refused _
  · obtain ⟨p, -, h⟩ := Option.bind_eq_some_iff.mp h
    dsimp only at h
    split_ifs at h
    · obtain ⟨q, -, h⟩ := Option.bind_eq_some_iff.mp h
      obtain ⟨r, -, h⟩ := Option.bind_eq_some_iff.mp h
      cases h
      exact Expr.not_hasValue_refused _
    · obtain ⟨q, -, h⟩ := Option.bind_eq_some_iff.mp h
      obtain ⟨r, -, h⟩ := Option.bind_eq_some_iff.mp h
      cases h
      exact Expr.not_hasValue_refused _

theorem not_hasValue_mappingTail {first : Node} (h : mappingTail self first ts = some (n, rest)) :
    ¬n.expr.HasValue := by
  unfold mappingTail at h
  split_ifs at h
  · obtain ⟨p, -, h⟩ := Option.bind_eq_some_iff.mp h
    cases h
    exact Expr.not_hasValue_refused _
  · split at h
    · cases h
      exact Expr.not_hasValue_refused _
    · split_ifs at h
      · cases h
        exact Expr.not_hasValue_refused _
      · obtain ⟨p, -, h⟩ := Option.bind_eq_some_iff.mp h
        cases h
        exact Expr.not_hasValue_refused _

theorem not_hasValue_setTail {first : Node} (h : setTail self first ts = some (n, rest)) :
    ¬n.expr.HasValue := by
  unfold setTail at h
  split_ifs at h
  · obtain ⟨p, -, h⟩ := Option.bind_eq_some_iff.mp h
    cases h
    exact Expr.not_hasValue_refused _
  · obtain ⟨p, -, h⟩ := Option.bind_eq_some_iff.mp h
    cases h
    exact Expr.not_hasValue_refused _

theorem not_hasValue_braced (h : braced self ts = some (n, rest)) : ¬n.expr.HasValue := by
  -- a closing brace follows whatever form is read
  have hclose : ∀ x : Reading, (do
      let p ← x
      let r ← skip? .closeBrace p.2
      some (p.1, r)) = some (n, rest) → ∃ r, x = some (n, r) := by
    intro x hx
    obtain ⟨⟨m, r⟩, hm, hr⟩ := Option.bind_eq_some_iff.mp hx
    obtain ⟨r', -, heq⟩ := Option.bind_eq_some_iff.mp hr
    cases heq
    exact ⟨r, hm⟩
  unfold braced at h
  dsimp only at h
  split_ifs at h
  · obtain ⟨r, hr⟩ := hclose _ h
    cases hr
    exact Expr.not_hasValue_refused _
  · obtain ⟨r, hr⟩ := hclose _ h
    obtain ⟨p, -, hp⟩ := Option.map_eq_some_iff.mp hr
    cases hp
    exact Expr.not_hasValue_refused _
  · obtain ⟨⟨m, r⟩, -, h⟩ := Option.bind_eq_some_iff.mp h
    dsimp only at h
    split at h
    · obtain ⟨r', hr⟩ := hclose _ h
      exact not_hasValue_setTail hr
    · split_ifs at h
      · cases h
      · obtain ⟨⟨l, s⟩, -, h⟩ := Option.bind_eq_some_iff.mp h
        obtain ⟨r', hr⟩ := hclose _ h
        exact not_hasValue_mappingTail hr

end Refused

/-! ### Goals that pass on what is read -/

/-- Whatever has a value and is read as one goal, is read so as another one with less calls. -/
def Narrows (goal inner : Goal) : Prop :=
  ∀ ⦃depth : ℕ⦄ ⦃ts : List Token⦄ ⦃n : Node⦄ ⦃rest : List Token⦄,
    Grammar.read depth goal ts = some (n, rest) → n.expr.HasValue →
    ∃ d < depth, Grammar.read d inner ts = some (n, rest)

theorem Narrows.trans {a b c : Goal} (hab : Narrows a b) (hbc : Narrows b c) : Narrows a c := by
  intro depth ts n rest h hv
  obtain ⟨d, hd, h⟩ := hab h hv
  obtain ⟨e, he, h⟩ := hbc h hv
  exact ⟨e, Nat.lt_trans he hd, h⟩

theorem narrows_of_rule {goal inner : Goal}
    (h : ∀ (depth : ℕ) (ts : List Token) (n : Node) (rest : List Token),
      rule (Grammar.read depth) goal ts = some (n, rest) → n.expr.HasValue →
      Grammar.read depth inner ts = some (n, rest)) : Narrows goal inner := by
  intro depth ts n rest hr hv
  cases depth with
  | zero => cases hr
  | succ depth => exact ⟨depth, Nat.lt_succ_self depth, h depth ts n rest hr hv⟩

theorem narrows_expressions : Narrows .expressions .expression := by
  refine narrows_of_rule fun depth ts n rest h hv => ?_
  obtain ⟨⟨m, r⟩, hm, h⟩ := Option.bind_eq_some_iff.mp h
  dsimp only at h
  split_ifs at h
  · obtain ⟨p, -, h⟩ := Option.bind_eq_some_iff.mp h
    cases h
    exact absurd hv (Expr.not_hasValue_refused _)
  · cases h
    exact hm

theorem narrows_expression : Narrows .expression .disjunction := by
  refine narrows_of_rule fun depth ts n rest h hv => ?_
  simp only [rule, expression] at h
  split at h
  · obtain ⟨p, -, h⟩ := Option.bind_eq_some_iff.mp h
    obtain ⟨q, -, h⟩ := Option.bind_eq_some_iff.mp h
    obtain ⟨r, -, h⟩ := Option.bind_eq_some_iff.mp h
    cases h
    exact absurd hv (Expr.not_hasValue_refused _)
  · obtain ⟨⟨m, r⟩, hm, h⟩ := Option.bind_eq_some_iff.mp h
    dsimp only at h
    split at h
    · cases h
      exact hm
    · obtain ⟨p, -, h⟩ := Option.bind_eq_some_iff.mp h
      obtain ⟨q, -, h⟩ := Option.bind_eq_some_iff.mp h
      obtain ⟨r, -, h⟩ := Option.bind_eq_some_iff.mp h
      cases h
      exact absurd hv (Expr.not_hasValue_refused _)

theorem narrows_joined {goal operand : Goal} (word : String) (more : Goal)
    (hr : ∀ self, rule self goal = joined self word operand more) : Narrows goal operand := by
  refine narrows_of_rule fun depth ts n rest h hv => ?_
  rw [hr] at h
  obtain ⟨⟨m, r⟩, hm, h⟩ := Option.bind_eq_some_iff.mp h
  dsimp only at h
  split_ifs at h
  · obtain ⟨p, -, h⟩ := Option.bind_eq_some_iff.mp h
    cases h
    exact absurd hv (Expr.not_hasValue_refused _)
  · cases h
    exact hm

theorem narrows_inversion : Narrows .inversion .comparison := by
  refine narrows_of_rule fun depth ts n rest h hv => ?_
  simp only [rule, inversion] at h
  split at h
  · obtain ⟨p, -, h⟩ := Option.bind_eq_some_iff.mp h
    cases h
    exact absurd hv (Expr.not_hasValue_refused _)
  · exact h

theorem narrows_comparison : Narrows .comparison (.binary 0) := by
  refine narrows_of_rule fun depth ts n rest h hv => ?_
  obtain ⟨⟨m, r⟩, hm, h⟩ := Option.bind_eq_some_iff.mp h
  dsimp only at h
  split_ifs at h
  · obtain ⟨p, -, h⟩ := Option.bind_eq_some_iff.mp h
    cases h
    exact absurd hv (Expr.not_hasValue_refused _)
  · cases h
    exact hm

/-- An expression with a value consists of operands and the loosest operators. -/
theorem narrows_expression_binary : Narrows .expression (.binary 0) := by
  have hdisjunction : Narrows .disjunction .conjunction :=
    narrows_joined "or" .moreDisjuncts fun _ => rfl
  have hconjunction : Narrows .conjunction .inversion :=
    narrows_joined "and" .moreConjuncts fun _ => rfl
  exact narrows_expression.trans <| hdisjunction.trans <| hconjunction.trans <|
    narrows_inversion.trans narrows_comparison

theorem narrows_named : Narrows .named .expression := by
  refine narrows_of_rule fun depth ts n rest h hv => ?_
  simp only [rule, named] at h
  split at h
  · obtain ⟨p, -, h⟩ := Option.bind_eq_some_iff.mp h
    cases h
    exact absurd hv (Expr.not_hasValue_refused _)
  · exact h

theorem narrows_item : Narrows (.item .named) .named := by
  refine narrows_of_rule fun depth ts n rest h hv => ?_
  cases hs : skip? .star ts with
  | none => simpa only [rule, item, hs] using h
  | some r =>
    simp only [rule, item, hs] at h
    obtain ⟨p, -, h⟩ := Option.bind_eq_some_iff.mp h
    cases h
    exact absurd hv (Expr.not_hasValue_refused _)

theorem narrows_power : Narrows .power .primary := by
  refine narrows_of_rule fun depth ts n rest h hv => ?_
  simp only [rule, power] at h
  -- nothing with a value is awaited or has an exponent
  split at h
  · obtain ⟨⟨m, r⟩, hm, h⟩ := Option.bind_eq_some_iff.mp h
    obtain ⟨p, -, hp⟩ := Option.map_eq_some_iff.mp hm
    dsimp only at h
    split at h
    · cases h
      cases hp
      exact absurd hv (Expr.not_hasValue_refused _)
    · obtain ⟨q, -, h⟩ := Option.bind_eq_some_iff.mp h
      cases h
      exact absurd hv (Expr.not_hasValue_refused _)
  · obtain ⟨⟨m, r⟩, hm, h⟩ := Option.bind_eq_some_iff.mp h
    dsimp only at h
    split at h
    · cases h
      exact hm
    · obtain ⟨q, -, h⟩ := Option.bind_eq_some_iff.mp h
      cases h
      exact absurd hv (Expr.not_hasValue_refused _)

/-- A tail with a value is empty. -/
theorem eq_of_primaryTail {depth : ℕ} {m n : Node} {ts rest : List Token}
    (h : Grammar.read depth (.primaryTail m) ts = some (n, rest)) (hv : n.expr.HasValue) :
    n = m ∧ rest = ts := by
  induction depth generalizing m ts with
  | zero => cases h
  | succ depth ih =>
    -- whatever follows makes a form without a value, which the rest of the tail is read after
    have hrefused : ∀ (form : Form) (bindable : Bool) (ns : List Node) (r : List Token),
        Grammar.read depth (.primaryTail (.refused form bindable ns)) r = some (n, rest) →
        n = m ∧ rest = ts := by
      intro form bindable ns r hr
      obtain ⟨rfl, -⟩ := ih hr
      exact absurd hv (Expr.not_hasValue_refused _)
    change primaryTail (Grammar.read depth) m ts = some (n, rest) at h
    unfold primaryTail at h
    split at h
    · obtain ⟨p, -, h⟩ := Option.bind_eq_some_iff.mp h
      exact hrefused _ _ _ _ h
    · obtain ⟨p, -, h⟩ := Option.bind_eq_some_iff.mp h
      obtain ⟨r, -, h⟩ := Option.bind_eq_some_iff.mp h
      exact hrefused _ _ _ _ h
    · obtain ⟨p, -, h⟩ := Option.bind_eq_some_iff.mp h
      obtain ⟨r, -, h⟩ := Option.bind_eq_some_iff.mp h
      exact hrefused _ _ _ _ h
    · cases h
      exact ⟨rfl, rfl⟩

theorem narrows_primary : Narrows .primary .atom := by
  refine narrows_of_rule fun depth ts n rest h hv => ?_
  obtain ⟨⟨m, r⟩, hm, h⟩ := Option.bind_eq_some_iff.mp h
  obtain ⟨rfl, rfl⟩ := eq_of_primaryTail h hv
  exact hm

/-- What is read with a value up to a closing parenthesis is read as an item. -/
theorem eq_of_parenthesized {depth : ℕ} {ts rest : List Token} {n : Node}
    (h : parenthesized (Grammar.read depth) ts = some (n, rest)) (hv : n.expr.HasValue) :
    Grammar.read depth (.item .named) ts = some (n, .symbol .closeParen :: rest) := by
  unfold parenthesized at h
  split at h
  · cases h
    exact absurd hv (Expr.not_hasValue_refused _)
  · split_ifs at h
    · obtain ⟨⟨m, r⟩, hm, h⟩ := Option.bind_eq_some_iff.mp h
      obtain ⟨r', hr, h⟩ := Option.bind_eq_some_iff.mp h
      cases h
      cases depth with
      | zero => cases hm
      | succ depth => exact absurd hv (not_hasValue_yielded hm)
    · obtain ⟨⟨m, r⟩, hm, h⟩ := Option.bind_eq_some_iff.mp h
      dsimp only at h
      split_ifs at h
      · obtain ⟨p, -, h⟩ := Option.bind_eq_some_iff.mp h
        obtain ⟨q, -, h⟩ := Option.bind_eq_some_iff.mp h
        cases h
        exact absurd hv (Expr.not_hasValue_refused _)
      · obtain ⟨p, -, h⟩ := Option.bind_eq_some_iff.mp h
        obtain ⟨q, -, h⟩ := Option.bind_eq_some_iff.mp h
        cases h
        exact absurd hv (Expr.not_hasValue_refused _)
      · obtain ⟨r', hr, h⟩ := Option.bind_eq_some_iff.mp h
        cases h
        rw [hm, eq_of_skip? hr]

/-- An atom with a value is a number or an expression in parentheses. -/
theorem cases_of_atom {depth : ℕ} {ts rest : List Token} {n : Node}
    (h : Grammar.read depth .atom ts = some (n, rest)) (hv : n.expr.HasValue) :
    (∃ m, ts = .int m :: rest ∧ n.expr = .int m) ∨
      (∃ x, ts = .float x :: rest ∧ n.expr = .float x) ∨
      ∃ r, ∃ d < depth, ts = .symbol .openParen :: r ∧
        Grammar.read d (.binary 0) r = some (n, .symbol .closeParen :: rest) := by
  cases depth with
  | zero => cases h
  | succ depth =>
    change atom (Grammar.read depth) ts = some (n, rest) at h
    unfold atom at h
    split at h
    · cases h
      exact .inl ⟨_, rfl, rfl⟩
    · cases h
      exact .inr (.inl ⟨_, rfl, rfl⟩)
    · cases h
      exact absurd hv (Expr.not_hasValue_refused _)
    · exact absurd hv (not_hasValue_strings h)
    · cases h
      exact absurd hv (Expr.not_hasValue_refused _)
    · obtain ⟨d, hd, hread⟩ := (narrows_item.trans <| narrows_named.trans
        narrows_expression_binary) (eq_of_parenthesized h hv) hv
      exact .inr (.inr ⟨_, d, Nat.lt_succ_of_lt hd, rfl, hread⟩)
    · exact absurd hv (not_hasValue_bracketed h)
    · exact absurd hv (not_hasValue_braced h)
    · split_ifs at h
      · cases h
        exact absurd hv (Expr.not_hasValue_refused _)
      · cases h
        exact absurd hv (Expr.not_hasValue_refused _)
    · cases h

end HeaderBindings.Constant
