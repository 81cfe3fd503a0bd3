import HeaderBindings.Proofs.Constant.Refusal
import HeaderBindings.Proofs.Constant.Scanning

/-!
# What has a value is a formula

The tokens that are read as an expression with a value lie over a text that spells a formula with
this expression. So a text with a value is a formula in all that is seen of it, and the value is
that of the formula.
-/
namespace HeaderBindings.Constant

open Grammar
open StringLiteral (isSourceBlank)

/-! ### Tokens and their texts -/

theorem LieOver.exists_of_cons {k : Token} {ts : List Token} {t : Text} (h : LieOver (k :: ts) t)
    (hk : k.isFormal = true) (hl : k ≠ .lineEnd) :
    ∃ b w u, t = b ++ (w ++ u) ∧ (∀ c ∈ b, isSourceBlank c = true) ∧ Writes k w ∧ LieOver ts u := by
  generalize hks : k :: ts = ks at h
  induction h with
  | nil => cases hks
  | blank hc h ih =>
    obtain ⟨b, w, u, rfl, hb, hw⟩ := ih hks
    exact ⟨_ :: b, w, u, rfl, List.forall_mem_cons.mpr ⟨hc, hb⟩, hw⟩
  | lineEnd h ih => exact absurd (List.cons.inj hks).1 hl
  | @token ts t w k' hw h ih =>
    obtain ⟨rfl, rfl⟩ := List.cons.inj hks
    exact ⟨[], w, t, rfl, List.forall_mem_nil _, hw, h⟩
  | foreign hf ts t =>
    obtain ⟨rfl, -⟩ := List.cons.inj hks
    rw [hf] at hk
    cases hk

theorem LieOver.isSourceBlank_of_nil {t : Text} (h : LieOver [] t) :
    ∀ c ∈ t, isSourceBlank c = true := by
  generalize hks : [] = ks at h
  induction h with
  | nil => exact List.forall_mem_nil _
  | blank hc h ih => exact List.forall_mem_cons.mpr ⟨hc, ih hks⟩
  | lineEnd | token | foreign => cases hks

theorem LieOver.isSourceBlank_of_lineEnd {t : Text} (h : LieOver [.lineEnd] t) :
    ∀ c ∈ t, isSourceBlank c = true := by
  generalize hks : [Token.lineEnd] = ks at h
  induction h with
  | nil => exact List.forall_mem_nil _
  | blank hc h ih => exact List.forall_mem_cons.mpr ⟨hc, ih hks⟩
  | lineEnd h ih =>
    obtain ⟨-, rfl⟩ := List.cons.inj hks
    exact h.isSourceBlank_of_nil
  | token hw h ih =>
    obtain ⟨rfl, -⟩ := List.cons.inj hks
    cases hw
  | foreign hf ts t =>
    obtain ⟨rfl, -⟩ := List.cons.inj hks
    cases hf

theorem exists_of_writes_symbol {s : Symbol} {w : Text} (h : Writes (.symbol s) w) :
    ∃ p ∈ symbolTable, p.2 = s ∧ w = p.1.toList := by
  cases h with
  | symbol hp => exact ⟨_, hp, rfl, rfl⟩

theorem eq_of_writes_unary {op : UnaryOp} {w : Text} (h : Writes (.symbol op.symbol) w) :
    w = op.text := by
  obtain ⟨p, hp, hs, rfl⟩ := exists_of_writes_symbol h
  have hall : ∀ p ∈ symbolTable, p.2 = op.symbol → p.1.toList = op.text := by
    cases op <;> decide
  exact hall p hp hs

theorem eq_of_writes_binary {op : BinaryOp} {w : Text} (h : Writes (.symbol op.symbol) w) :
    w = op.text.toList := by
  obtain ⟨p, hp, hs, rfl⟩ := exists_of_writes_symbol h
  have hall : ∀ p ∈ symbolTable, p.2 = op.symbol → p.1.toList = op.text.toList := by
    cases op <;> decide
  exact hall p hp hs

theorem eq_of_writes_openParen {w : Text} (h : Writes (.symbol .openParen) w) : w = ['('] := by
  obtain ⟨p, hp, hs, rfl⟩ := exists_of_writes_symbol h
  have hall : ∀ p ∈ symbolTable, p.2 = .openParen → p.1.toList = ['('] := by decide
  exact hall p hp hs

theorem eq_of_writes_closeParen {w : Text} (h : Writes (.symbol .closeParen) w) : w = [')'] := by
  obtain ⟨p, hp, hs, rfl⟩ := exists_of_writes_symbol h
  have hall : ∀ p ∈ symbolTable, p.2 = .closeParen → p.1.toList = [')'] := by decide
  exact hall p hp hs

theorem eq_of_binarySymbol? {s : Symbol} {level : ℕ} {op : BinaryOp}
    (h : binarySymbol? s = some (level, some op)) : s = op.symbol ∧ level = op.level := by
  unfold binarySymbol? at h
  split at h <;> cases h <;> exact ⟨rfl, rfl⟩

theorem eq_of_unarySymbol? {s : Symbol} {op : UnaryOp} (h : unarySymbol? s = some op) :
    s = op.symbol := by
  unfold unarySymbol? at h
  split at h <;> cases h <;> rfl

/-! ### Phrases -/

/-- A text spells an expression of the given level or of a tighter one. -/
def Phrase (level : ℕ) (e : Expr) (t : Text) : Prop :=
  ∃ f : Formula, ∃ k, level ≤ k ∧ f.expr = e ∧ f.Spelled k t

/-- Tokens lie over a phrase and what the rest of them lies over. -/
def Spans (level : ℕ) (e : Expr) (ts rest : List Token) : Prop :=
  ∀ ⦃t : Text⦄, LieOver ts t → ∃ s u, t = s ++ u ∧ LieOver rest u ∧ Phrase level e s

section Phrases
variable {level : ℕ} {e : Expr} {t b : Text}

theorem Phrase.mono {k : ℕ} (h : Phrase level e t) (hk : k ≤ level) : Phrase k e t := by
  obtain ⟨f, l, hl, he, hf⟩ := h
  exact ⟨f, l, hk.trans hl, he, hf⟩

theorem Phrase.blanks_append (h : Phrase level e t) (hb : ∀ c ∈ b, isSourceBlank c = true) :
    Phrase level e (b ++ t) := by
  obtain ⟨f, l, hl, he, hf⟩ := h
  exact ⟨f, l, hl, he, hf.blanks_append hb⟩

theorem Phrase.append_blanks (h : Phrase level e t) (hb : ∀ c ∈ b, isSourceBlank c = true) :
    Phrase level e (t ++ b) := by
  obtain ⟨f, l, hl, he, hf⟩ := h
  exact ⟨f, l, hl, he, hf.append_blanks hb⟩

theorem Phrase.parens (h : Phrase level e t) : Phrase atomLevel e ('(' :: (t ++ [')'])) := by
  obtain ⟨f, l, -, he, hf⟩ := h
  exact ⟨f, atomLevel, le_rfl, he, .parens hf⟩

theorem Phrase.unary (h : Phrase signLevel e t) (op : UnaryOp) :
    Phrase signLevel (.unary op e) (op.text ++ t) := by
  obtain ⟨f, l, hl, rfl, hf⟩ := h
  exact ⟨.unary op f, signLevel, le_rfl, rfl, .unary op hl hf⟩

theorem Phrase.binary {op : BinaryOp} {e' : Expr} {s : Text} (h : Phrase op.level e s)
    (h' : Phrase (op.level + 1) e' t) :
    Phrase op.level (.binary op e e') (s ++ (op.text.toList ++ t)) := by
  obtain ⟨f, l, hl, rfl, hf⟩ := h
  obtain ⟨f', l', hl', rfl, hf'⟩ := h'
  exact ⟨.binary op f f', op.level, le_rfl, rfl, .binary op hl hl' hf hf'⟩

end Phrases

/-! ### Reading -/

/-- With so many calls, whatever is read with a value lies over a phrase. The tail of a level goes
on with the phrase of its left operand. -/
structure ReadsPhrases (depth : ℕ) : Prop where
  factor {ts rest : List Token} {n : Node} : Grammar.read depth .factor ts = some (n, rest) →
    n.expr.HasValue → Spans signLevel n.expr ts rest
  binary {level : ℕ} {ts rest : List Token} {n : Node} : level ≤ signLevel →
    Grammar.read depth (.binary level) ts = some (n, rest) → n.expr.HasValue →
    Spans level n.expr ts rest
  tail {level : ℕ} {left : Node} {ts rest : List Token} {n : Node} :
    Grammar.read depth (.binaryTail level left) ts = some (n, rest) → n.expr.HasValue →
    left.expr.HasValue ∧ ∀ {s t : Text}, Phrase level left.expr s → LieOver ts t →
      ∃ s' u, t = s' ++ u ∧ LieOver rest u ∧ Phrase level n.expr (s ++ s')

section Reading
variable {depth : ℕ} (ih : ∀ d < depth, ReadsPhrases d) {ts rest : List Token} {n : Node}
include ih

theorem spans_atom (h : Grammar.read depth .atom ts = some (n, rest)) (hv : n.expr.HasValue) :
    Spans atomLevel n.expr ts rest := by
  intro t ht
  obtain ⟨m, rfl, he⟩ | ⟨x, rfl, he⟩ | ⟨r, d, hd, rfl, hr⟩ := cases_of_atom h hv
  · obtain ⟨b, w, u, rfl, hb, hw, hu⟩ := ht.exists_of_cons rfl (by rintro ⟨⟩)
    refine ⟨b ++ w, u, by simp, hu, Phrase.blanks_append ?_ hb⟩
    cases hw with
    | integer l => exact ⟨.integer l, atomLevel, le_rfl, he.symm, .integer l⟩
  · obtain ⟨b, w, u, rfl, hb, hw, hu⟩ := ht.exists_of_cons rfl (by rintro ⟨⟩)
    refine ⟨b ++ w, u, by simp, hu, Phrase.blanks_append ?_ hb⟩
    cases hw with
    | float l => exact ⟨.float l, atomLevel, le_rfl, he.symm, .float l⟩
  · obtain ⟨b, w, u, rfl, hb, hw, hu⟩ := ht.exists_of_cons rfl (by rintro ⟨⟩)
    obtain rfl := eq_of_writes_openParen hw
    obtain ⟨s, u, rfl, hclose, hs⟩ := (ih d hd).binary (Nat.zero_le _) hr hv hu
    obtain ⟨b', w, u, rfl, hb', hw, hrest⟩ := hclose.exists_of_cons rfl (by rintro ⟨⟩)
    obtain rfl := eq_of_writes_closeParen hw
    exact ⟨b ++ '(' :: ((s ++ b') ++ [')']), u, by simp, hrest,
      (hs.append_blanks hb').parens.blanks_append hb⟩

theorem spans_factor (h : Grammar.read depth .factor ts = some (n, rest))
    (hv : n.expr.HasValue) : Spans signLevel n.expr ts rest := by
  have hatom : ∀ d < depth, Grammar.read d .power ts = some (n, rest) →
      Spans signLevel n.expr ts rest := by
    intro d hd hp t ht
    obtain ⟨d', hd', ha⟩ := (narrows_power.trans narrows_primary) hp hv
    obtain ⟨s, u, hsu, hu, hs⟩ :=
      spans_atom (fun k hk => ih k (hk.trans (hd'.trans hd))) ha hv ht
    exact ⟨s, u, hsu, hu, hs.mono (by decide)⟩
  cases depth with
  | zero => cases h
  | succ depth =>
    have hlt := Nat.lt_succ_self depth
    change Grammar.factor (Grammar.read depth) ts = some (n, rest) at h
    unfold Grammar.factor at h
    split at h
    · split at h
      · next s r op hop =>
        obtain ⟨⟨m, r'⟩, hm, heq⟩ := Option.bind_eq_some_iff.mp h
        cases heq
        obtain rfl := eq_of_unarySymbol? hop
        intro t ht
        obtain ⟨b, w, u, rfl, hb, hw, hu⟩ := ht.exists_of_cons rfl (by rintro ⟨⟩)
        obtain rfl := eq_of_writes_unary hw
        obtain ⟨s, u, rfl, hu, hs⟩ := (ih depth hlt).factor hm hv.of_unary hu
        exact ⟨b ++ (op.text ++ s), u, by simp, hu, (hs.unary op).blanks_append hb⟩
      · exact hatom depth hlt h
    · exact hatom depth hlt h

theorem spans_binary {level : ℕ} (hl : level ≤ signLevel)
    (h : Grammar.read depth (.binary level) ts = some (n, rest)) (hv : n.expr.HasValue) :
    Spans level n.expr ts rest := by
  cases depth with
  | zero => cases h
  | succ depth =>
    have hd := ih depth (Nat.lt_succ_self depth)
    change Grammar.binary (Grammar.read depth) level ts = some (n, rest) at h
    unfold Grammar.binary at h
    split_ifs at h with hlt
    · obtain ⟨⟨m, r⟩, hm, htail⟩ := Option.bind_eq_some_iff.mp h
      obtain ⟨hleft, hnext⟩ := hd.tail htail hv
      intro t ht
      obtain ⟨s, u, rfl, hu, hs⟩ := hd.binary hlt hm hleft ht
      obtain ⟨s', u, rfl, hu, hall⟩ := hnext (hs.mono level.le_succ) hu
      exact ⟨s ++ s', u, by simp, hu, hall⟩
    · obtain rfl : level = signLevel := le_antisymm hl (not_lt.mp hlt)
      exact hd.factor h hv

theorem phrase_tail {level : ℕ} {left : Node}
    (h : Grammar.read depth (.binaryTail level left) ts = some (n, rest)) (hv : n.expr.HasValue) :
    left.expr.HasValue ∧ ∀ {s t : Text}, Phrase level left.expr s → LieOver ts t →
      ∃ s' u, t = s' ++ u ∧ LieOver rest u ∧ Phrase level n.expr (s ++ s') := by
  have hdone : some (left, ts) = some (n, rest) → left.expr.HasValue ∧ ∀ {s t : Text},
      Phrase level left.expr s → LieOver ts t →
      ∃ s' u, t = s' ++ u ∧ LieOver rest u ∧ Phrase level n.expr (s ++ s') := by
    intro heq
    cases heq
    exact ⟨hv, fun {s t} hs ht => ⟨[], t, rfl, ht, by rwa [List.append_nil]⟩⟩
  cases depth with
  | zero => cases h
  | succ depth =>
    have hd := ih depth (Nat.lt_succ_self depth)
    change Grammar.binaryTail (Grammar.read depth) level left ts = some (n, rest) at h
    unfold Grammar.binaryTail at h
    split at h
    · split at h
      · split_ifs at h with hlevel
        · next s r l op hop =>
          obtain ⟨⟨m, r'⟩, hm, htail⟩ := Option.bind_eq_some_iff.mp h
          obtain ⟨hboth, hnext⟩ := hd.tail htail hv
          cases op with
          | none => exact absurd hboth (Expr.not_hasValue_refused _)
          | some op =>
            obtain ⟨rfl, hl⟩ := eq_of_binarySymbol? hop
            obtain rfl : level = op.level := hlevel.symm.trans hl
            obtain ⟨hleft, hright⟩ := Expr.HasValue.of_binary hboth
            refine ⟨hleft, fun {s t} hs ht => ?_⟩
            obtain ⟨b, w, u, rfl, hb, hw, hu⟩ := ht.exists_of_cons rfl (by rintro ⟨⟩)
            obtain rfl := eq_of_writes_binary hw
            obtain ⟨s', u, rfl, hu, hs'⟩ := hd.binary op.level_lt hm hright hu
            obtain ⟨s'', u, rfl, hu, hall⟩ := hnext ((hs.append_blanks hb).binary hs') hu
            exact ⟨b ++ (op.text.toList ++ (s' ++ s'')), u, by simp, hu, by simpa using hall⟩
        · exact hdone h
      · exact hdone h
    · exact hdone h

end Reading

theorem readsPhrases (depth : ℕ) : ReadsPhrases depth := by
  induction depth using Nat.strong_induction_on with
  | h depth ih =>
    exact ⟨spans_factor ih, spans_binary ih, phrase_tail ih⟩

/-! ### Texts with a value -/

/-- A node that is read from a text and has a value is a formula in all that is seen of it. -/
theorem phrase_of_ofText {t : Text} {n : Node} (hf : ∀ c ∈ t, isForeignLetter c = false)
    (h : Node.ofText (respellOctals t) = .ok n) (hv : n.expr.HasValue) :
    Phrase 0 n.expr (visible t) := by
  have hall : ∀ {depth : ℕ} {rest : List Token},
      Grammar.read depth .expressions (tokens (respellOctals t)) = some (n, rest) →
      (∀ u, LieOver rest u → ∀ c ∈ u, isSourceBlank c = true) → Phrase 0 n.expr (visible t) := by
    intro depth rest hr hblank
    obtain ⟨d, -, hd⟩ := (narrows_expressions.trans narrows_expression_binary) hr hv
    obtain ⟨s, u, ht, hu, hs⟩ :=
      (readsPhrases d).binary (Nat.zero_le _) hd hv (lieOver_tokens hf)
    rw [ht]
    exact hs.append_blanks (hblank u hu)
  unfold Node.ofText at h
  split at h
  · cases h
  · split at h
    · next m hm =>
      cases h
      exact hall hm fun u => LieOver.isSourceBlank_of_nil
    · next m hm =>
      cases h
      exact hall hm fun u => LieOver.isSourceBlank_of_lineEnd
    · cases h
    · cases h

theorem ofText_of_readExpression {t : Text} {e : Expr} (h : readExpression t = .ok e) :
    ∃ n, Node.ofText t = .ok n ∧ n.expr = e := by
  unfold readExpression at h
  dsimp only at h
  split_ifs at h
  · cases h
  · cases h
  · cases h
  · obtain ⟨n, hn, hdeep⟩ := bind_eq_ok_iff.mp h
    split_ifs at hdeep
    · cases hdeep
    · exact ⟨n, mapError_eq_ok_iff.mp hn, Except.ok.inj hdeep⟩

theorem evaluate_of_literalValue? {t : Text} {v : Value} (h : literalValue? t = some v) :
    (∀ c ∈ Text.trim t, isForeignLetter c = false) ∧ evaluate (Text.trim t) = .ok v := by
  unfold literalValue? judge at h
  dsimp only at h
  split_ifs at h with hn
  · cases h
  · have hforeign : ∀ c ∈ Text.trim t, isForeignLetter c = false := by
      simp only [Bool.or_eq_true, decide_eq_true_eq, not_or] at hn
      simpa using hn.2
    cases he : evaluate (Text.trim t) with
    | error cause =>
      rw [he] at h
      dsimp only at h
      cases hx : cause.exhaustion? <;> rw [hx] at h <;> cases h
    | ok w =>
      rw [he] at h
      dsimp only at h
      split_ifs at h
      · cases h
        exact ⟨hforeign, rfl⟩
      · cases h

/-- A text with a value is a formula in all that is seen of it when it is trimmed, and the value is
that of the formula. The text itself is one exactly if nothing of it is hidden. -/
theorem literalValue?_formula {t : Text} {v : Value} (h : literalValue? t = some v) :
    ∃ f : Formula, ∃ level, f.value? = some v ∧ f.Spelled level (visible (Text.trim t)) ∧
      (f.Spelled level (Text.trim t) ↔ '#' ∉ Text.trim t ∧ '\\' ∉ Text.trim t) := by
  obtain ⟨hf, heval⟩ := evaluate_of_literalValue? h
  rw [evaluate, Text.trim_trim] at heval
  obtain ⟨e, he, hv⟩ := bind_eq_ok_iff.mp heval
  obtain ⟨n, hn, rfl⟩ := ofText_of_readExpression he
  have hvalue := mapError_eq_ok_iff.mp hv
  obtain ⟨f, level, -, hexpr, hspelled⟩ := phrase_of_ofText hf hn ⟨v, hvalue⟩
  rw [← hexpr] at hvalue
  refine ⟨f, level, Formula.value?_of_eval hvalue, hspelled, fun hs => ?_, fun hplain => ?_⟩
  · exact ⟨hs.not_mem '#' (by decide), hs.not_mem '\\' (by decide)⟩
  · have hall : visible (Text.trim t) = Text.trim t := by
      rw [visible_eq_self_iff]
      simpa [hidingChars] using hplain
    rwa [hall] at hspelled

set_option maxRecDepth 8000 in
/-- A comment hides a parenthesis from the first text, and from the second one a number that makes
no formula of it. -/
theorem literalValue?_formula_comment :
    (literalValue? "(1 # )\n + 017)".toList = some (.int 16) ∧ ∃ f : Formula, ∃ level,
      f.value? = some (.int 16) ∧ f.Spelled level "(1 \n + 017)".toList) ∧
    (literalValue? "1 # 2".toList = some (.int 1) ∧ ∃ f : Formula, ∃ level,
      f.value? = some (.int 1) ∧ f.Spelled level "1 ".toList ∧
        ¬f.Spelled level "1 # 2".toList) := by
  have hsum : literalValue? "(1 # )\n + 017)".toList = some (.int 16) := by cbv
  have hone : literalValue? "1 # 2".toList = some (.int 1) := by cbv
  obtain ⟨f, level, hv, hs, -⟩ := literalValue?_formula hsum
  obtain ⟨f', level', hv', hs', hiff⟩ := literalValue?_formula hone
  refine ⟨⟨hsum, f, level, hv, hs⟩, hone, f', level', hv', hs', fun hall => ?_⟩
  exact absurd (hiff.mp hall).1 (by decide)

end HeaderBindings.Constant
