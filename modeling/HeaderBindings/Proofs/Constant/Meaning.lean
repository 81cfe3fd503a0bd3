import HeaderBindings.Constant.Literal
import HeaderBindings.Proofs.Constant.Lexing
import HeaderBindings.Proofs.Constant.Parsing

/-!
# Spelled trees have the value of the tree

Within the limits of its reader and its evaluation, a spaced spelling of a tree has the value of
that tree, and it has none exactly if an operator of the tree has no meaning for its operands.
-/
namespace HeaderBindings.Constant

open Text

/-! ### Limits -/

/-- The limits of the reader and of evaluation are not reached. -/
structure WithinLimits (t : Tree) (ls : List Lexeme) : Prop where
  nesting : Nesting.depth (ls.map Lexeme.token) < Nesting.limit
  height : t.height ≤ Node.maxDepth
  reach : t.expr.reach ≤ Node.maxReach
  shifts : t.ShiftsFit

theorem WithinLimits.not_isTooDeep {t : Tree} {ls : List Lexeme} (h : WithinLimits t ls) :
    t.node.isTooDeep = false := by
  have hheight := h.height
  have hreach := h.reach
  simp [Node.isTooDeep, t.node_depth, t.node_expr]
  omega

/-! ### Spaces around a text -/

theorem isBlank_text (l : Lexeme) : ∀ c ∈ l.text, isBlank c = false := fun c hc =>
  forall_isPlain (p := fun c => isBlank c = false) (by decide) (by decide) (isPlain_text l c hc)

theorem Begins.ne_nil {write : Lexeme → Text} (hw : Begins write) (l : Lexeme) : write l ≠ [] := by
  obtain ⟨c, r, ht, -⟩ := hw l
  simp [ht]

theorem layout_ne_nil {write : Lexeme → Text} (hw : Begins write) {ls : List (Lexeme × ℕ)}
    (h : ls ≠ []) : layout write ls ≠ [] := by
  cases ls with
  | nil => exact absurd rfl h
  | cons p ls => simp [layout, hw.ne_nil]

/-- Lexemes without spaces after the last one stand trimmed. -/
theorem isTrimmed_layout (ls : List (Lexeme × ℕ)) (l : Lexeme) :
    IsTrimmed (layout Lexeme.text (ls ++ [(l, 0)])) := by
  have hlast : layout Lexeme.text (ls ++ [(l, 0)]) = layout Lexeme.text ls ++ l.text := by
    simp [layout]
  constructor
  · intro c hc
    cases ls with
    | nil =>
      rw [hlast] at hc
      exact isBlank_text l c (List.mem_of_mem_head? hc)
    | cons p ls =>
      rw [List.cons_append, layout_cons,
        List.head?_append_of_ne_nil _ (begins_text.ne_nil p.1)] at hc
      exact isBlank_text p.1 c (List.mem_of_mem_head? hc)
  · intro c hc
    rw [hlast, List.getLast?_append_of_ne_nil _ (begins_text.ne_nil l)] at hc
    exact isBlank_text l c (List.mem_of_mem_getLast? hc)

/-- Trimming leaves the lexemes and the spaces between them. -/
theorem IsSpaced.trim {ls : List Lexeme} {t : Text} (h : IsSpaced ls t) (hne : ls ≠ []) :
    ∃ gaps, gaps.map Prod.fst = ls ∧ trim t = layout Lexeme.text gaps ∧ IsTrimmed (trim t) := by
  obtain ⟨before, gaps, rfl, rfl⟩ := h
  have hgaps : gaps ≠ [] := by
    rintro rfl
    exact hne rfl
  obtain ⟨init, ⟨l, n⟩, rfl⟩ := (List.eq_nil_or_concat' gaps).resolve_left hgaps
  have hsplit : layout Lexeme.text (init ++ [(l, n)]) =
      layout Lexeme.text (init ++ [(l, 0)]) ++ List.replicate n ' ' := by
    simp [layout]
  have htrim := isTrimmed_layout init l
  have hall : Text.trim (List.replicate before ' ' ++ layout Lexeme.text (init ++ [(l, n)])) =
      layout Lexeme.text (init ++ [(l, 0)]) := by
    rw [trim_blanks_append isBlank_of_mem_spaces, hsplit, trim_append_blanks isBlank_of_mem_spaces]
    exact trim_eq_self htrim
  refine ⟨init ++ [(l, 0)], by simp, hall, ?_⟩
  rwa [hall]

/-! ### Reading and evaluation -/

theorem length_le_layout (ls : List (Lexeme × ℕ)) :
    ls.length ≤ (layout Lexeme.source ls).length := by
  induction ls with
  | nil => exact Nat.zero_le _
  | cons p ls ih =>
    have hpos : 0 < p.1.source.length := List.length_pos_of_ne_nil (begins_source.ne_nil p.1)
    rw [layout_cons]
    simp only [List.length_cons, List.length_append, List.length_replicate]
    omega

/-- A text with the tokens of an operand is not indented. -/
theorem Starts.ofText {t : Text} {ts : List Token} {n : Node} (hs : Starts ts)
    (ht : tokens t = ts)
    (hr : Grammar.read (callDepth t.length) .expressions ts = some (n, [])) :
    Node.ofText t = .ok n := by
  unfold Node.ofText
  rw [ht]
  cases hs <;> simp only [hr]

/-- The expression of a respelled tree is read. -/
theorem readExpression_layout {level : ℕ} {t : Tree} {gaps : List (Lexeme × ℕ)}
    (hs : Spells maxOpenBrackets level t (gaps.map Prod.fst))
    (hl : WithinLimits t (gaps.map Prod.fst)) :
    readExpression (layout Lexeme.source gaps) = .ok t.expr := by
  have htokens : tokens (layout Lexeme.source gaps) = (gaps.map Prod.fst).map Lexeme.token :=
    tokens_layout hs.isOperand.chain hs.isShort (hs.brackets (Nat.zero_add _).le)
  have hnul : (layout Lexeme.source gaps).contains '\x00' = false := by
    have hall : ∀ c ∈ layout Lexeme.source gaps, c ≠ '\x00' := by
      refine forall_mem_layout (fun l c hc => ?_) (by decide) _
      rcases isPlain_source l c hc with h | rfl
      · exact forall_isPlain (p := (· ≠ '\x00')) (by decide) (by decide) h
      · decide
    simpa using fun hm => hall _ hm rfl
  have hlength := length_le_layout gaps
  have hread : Grammar.read (callDepth (layout Lexeme.source gaps).length) .expressions
      ((gaps.map Prod.fst).map Lexeme.token) = some (t.node, []) := by
    refine hs.read_tokens ?_
    rw [List.length_map, callDepth]
    omega
  have hnode : Node.ofText (layout Lexeme.source gaps) = .ok t.node := by
    have hstarts := hs.isOperand.starts_tokens []
    rw [List.append_nil] at hstarts
    exact hstarts.ofText htokens hread
  have hdepth : ¬Nesting.depth (tokens (layout Lexeme.source gaps)) ≥ Nesting.limit := by
    rw [htokens]
    exact not_le.mpr hl.nesting
  unfold readExpression
  rw [hnul, hnode, if_neg hdepth]
  simp only [Except.mapError, hl.not_isTooDeep, bind, Except.bind, Bool.false_eq_true, ↓reduceIte,
    t.node_expr]

/-- A text of digits, operators and parentheses is numeric. -/
theorem not_textual {ls : List (Lexeme × ℕ)} (hne : ls ≠ []) :
    ¬(layout Lexeme.text ls = [] || (layout Lexeme.text ls).any isForeignLetter) = true := by
  have hforeign : ∀ c ∈ layout Lexeme.text ls, isForeignLetter c = false := by
    refine forall_mem_layout (fun l c hc => ?_) (by decide) ls
    exact forall_isPlain (p := fun c => isForeignLetter c = false) (by decide) (by decide)
      (isPlain_text l c hc)
  simpa [layout_ne_nil begins_text hne] using hforeign

/-- A trimmed spelling of a tree is evaluated to the value of the tree. -/
theorem evaluate_layout {level : ℕ} {t : Tree} {gaps : List (Lexeme × ℕ)}
    (hs : Spells maxOpenBrackets level t (gaps.map Prod.fst))
    (hl : WithinLimits t (gaps.map Prod.fst)) (ht : IsTrimmed (layout Lexeme.text gaps)) :
    (evaluate (layout Lexeme.text gaps)).toOption = t.value?.map .int := by
  rw [evaluate, trim_eq_self ht, respellOctals_layout hs.isOperand.chain, toOption_bind,
    readExpression_layout hs hl]
  exact (toOption_mapError _ _).trans (Tree.eval_expr hl.shifts)

theorem literalValue?_eq {expansion : Text} {value : Option ℤ}
    (hn : ¬(trim expansion = [] || (trim expansion).any isForeignLetter) = true)
    (hv : (evaluate (trim expansion)).toOption = value.map .int) :
    literalValue? expansion = value.map .int := by
  rw [literalValue?, judge, if_neg hn]
  cases he : evaluate (trim expansion) with
  | ok v =>
    rw [he] at hv
    cases value with
    | none => cases hv
    | some a =>
      obtain rfl : v = .int a := Option.some.inj hv
      rfl
  | error cause =>
    rw [he] at hv
    cases value with
    | some a => cases hv
    | none =>
      dsimp only
      cases cause.exhaustion? <;> rfl

/-- A spaced spelling of a tree has the value of the tree. It has none exactly if something in the
tree is divided by zero or shifted by a negative count. -/
theorem literalValue?_spelled {level : ℕ} {t : Tree} {ls : List Lexeme} {text : Text}
    (hs : Spells maxOpenBrackets level t ls) (ht : IsSpaced ls text) (hl : WithinLimits t ls) :
    literalValue? text = t.value?.map .int ∧ (literalValue? text = none ↔ t.Faults) := by
  obtain ⟨gaps, rfl, htext, htrim⟩ := ht.trim hs.isOperand.ne_nil
  have hgaps : gaps ≠ [] := by
    rintro rfl
    exact hs.isOperand.ne_nil rfl
  rw [htext] at htrim
  have hvalue : literalValue? text = t.value?.map .int := by
    refine literalValue?_eq ?_ ?_
    · rw [htext]
      exact not_textual hgaps
    · rw [htext]
      exact evaluate_layout hs hl htrim
  refine ⟨hvalue, ?_⟩
  rw [hvalue, Option.map_eq_none_iff]
  exact Tree.value?_eq_none_iff

/-- A quotient is truncated, an octal literal is shifted, and the parentheses are needed. -/
theorem literalValue?_quotient_add_shift :
    literalValue? "-7/2 + (017<<2)".toList = some (.int 57) := by
  have htwo : ∀ room, Spells room atomLevel (.literal (.decimal 2)) [.literal (.decimal 2)] :=
    fun room => .literal (by decide)
  have hminus : Spells maxOpenBrackets signLevel (.unary .minus (.literal (.decimal 7)))
      [.unary .minus, .literal (.decimal 7)] :=
    .unary (by decide) (.literal (by decide))
  have hquotient : Spells maxOpenBrackets BinaryOp.div.level
      (.binary .div (.unary .minus (.literal (.decimal 7))) (.literal (.decimal 2)))
      [.unary .minus, .literal (.decimal 7), .binary .div, .literal (.decimal 2)] :=
    hminus.binary (by decide) (by decide) (htwo _)
  have hshift : Spells (maxOpenBrackets - 1) BinaryOp.shiftLeft.level
      (.binary .shiftLeft (.literal (.octal 1 [7])) (.literal (.decimal 2)))
      [.literal (.octal 1 [7]), .binary .shiftLeft, .literal (.decimal 2)] :=
    .binary (by decide) (by decide) (.literal (by decide)) (htwo _)
  have hsum : Spells maxOpenBrackets BinaryOp.add.level _ _ :=
    .binary (by decide) (by decide) hquotient (.parens hshift)
  have hspaced : IsSpaced _ "-7/2 + (017<<2)".toList :=
    ⟨0, [(.unary .minus, 0), (.literal (.decimal 7), 0), (.binary .div, 0),
      (.literal (.decimal 2), 1), (.binary .add, 1), (.opening, 0), (.literal (.octal 1 [7]), 0),
      (.binary .shiftLeft, 0), (.literal (.decimal 2), 0), (.closing, 0)], rfl, by decide⟩
  exact (literalValue?_spelled hsum hspaced
    { nesting := by decide
      height := by decide
      reach := by decide
      shifts := by simp [Tree.ShiftsFit, Tree.value?]; decide }).1

end HeaderBindings.Constant
