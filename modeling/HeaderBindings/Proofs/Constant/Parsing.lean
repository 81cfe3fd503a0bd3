import HeaderBindings.Constant.Grammar
import HeaderBindings.Proofs.Constant.Spelling

/-!
# The tokens of a spelled tree are read as that tree

What is read of an operand ends where an operator of a looser level or a closing parenthesis stands.
A chain of operators of one level associates to the left, so the left operand of the last one is the
node that the tail of its level was called with.
-/
namespace HeaderBindings.Constant

open Grammar

/-- A goal is read with any depth of calls from the bound on. -/
def Reads (bound : ℕ) (goal : Goal) (ts : List Token) (n : Node) (rest : List Token) : Prop :=
  ∀ depth, bound ≤ depth → Grammar.read depth goal ts = some (n, rest)

/-! ### Where operands begin and end -/

/-- An operand begins here. -/
inductive Starts : List Token → Prop
  | int (n : ℕ) (r : List Token) : Starts (.int n :: r)
  | sign (op : UnaryOp) (r : List Token) : Starts (.symbol op.symbol :: r)
  | opening (r : List Token) : Starts (.symbol .openParen :: r)

/-- An operand with operators of the given level or of tighter ones ends here. -/
inductive Stops (level : ℕ) : List Token → Prop
  | ending : Stops level []
  | closing (r : List Token) : Stops level (.symbol .closeParen :: r)
  | operator (op : BinaryOp) (r : List Token) (h : op.level < level) :
    Stops level (.symbol op.symbol :: r)

section Starts
variable {ts : List Token} (h : Starts ts)
include h

theorem Starts.skipWord? (w : String) : skipWord? w ts = none := by cases h <;> rfl

theorem Starts.skipBinding? : skipBinding? ts = none := by cases h <;> rfl

theorem Starts.skip?_closeParen : skip? .closeParen ts = none := by
  cases h with
  | sign op r => cases op <;> rfl
  | _ => rfl

theorem Starts.skip?_star : skip? .star ts = none := by
  cases h with
  | sign op r => cases op <;> rfl
  | _ => rfl

end Starts

theorem IsOperand.starts_tokens {ls : List Lexeme} (h : IsOperand ls) (rest : List Token) :
    Starts (ls.map Lexeme.token ++ rest) := by
  obtain ⟨l, hl, hs⟩ := h.starts
  cases ls with
  | nil => cases hl
  | cons l' ls =>
    obtain rfl : l' = l := Option.some.inj hl
    cases l' with
    | literal l => exact .int l.value _
    | unary op => exact .sign op _
    | opening => exact .opening _
    | binary op => cases hs
    | closing => cases hs

theorem Stops.mono {k k' : ℕ} {ts : List Token} (h : Stops k ts) (hk : k ≤ k') : Stops k' ts := by
  cases h with
  | ending => exact .ending
  | closing r => exact .closing r
  | operator op r h => exact .operator op r (h.trans_le hk)

section Stops
variable {level : ℕ} {ts : List Token} (h : Stops level ts)
include h

theorem Stops.nextIsWord (w : String) : nextIsWord w ts = false := by cases h <;> rfl

theorem Stops.skipWord? (w : String) : skipWord? w ts = none := by cases h <;> rfl

theorem Stops.nextIs_comma : nextIs .comma ts = false := by
  cases h with
  | operator op r h => cases op <;> rfl
  | _ => rfl

theorem Stops.skip?_doubleStar : skip? .doubleStar ts = none := by
  cases h with
  | operator op r h => cases op <;> rfl
  | _ => rfl

theorem Stops.skipComparison? : skipComparison? ts = none := by
  cases h with
  | operator op r h => cases op <;> rfl
  | _ => rfl

theorem Stops.startsComprehension : startsComprehension ts = false := by cases h <;> rfl

end Stops

/-! ### Rules -/

theorem Reads.mono {b b' : ℕ} {goal : Goal} {ts : List Token} {n : Node} {rest : List Token}
    (h : Reads b goal ts n rest) (hb : b ≤ b') : Reads b' goal ts n rest :=
  fun depth hd => h depth (hb.trans hd)

/-- A rule takes one call more than the goals it calls. -/
theorem reads_of_rule {b : ℕ} {goal : Goal} {ts : List Token} {n : Node} {rest : List Token}
    (h : ∀ depth, b ≤ depth → rule (Grammar.read depth) goal ts = some (n, rest)) :
    Reads (b + 1) goal ts n rest := by
  intro depth hd
  obtain ⟨d, rfl⟩ := Nat.exists_eq_add_of_le' hd
  exact h (d + b) (by omega)

theorem binarySymbol?_symbol (op : BinaryOp) :
    binarySymbol? op.symbol = some (op.level, some op) := by
  cases op <;> rfl

theorem unarySymbol?_symbol (op : UnaryOp) : unarySymbol? op.symbol = some op := by
  cases op <;> rfl

section Rules
variable {b level : ℕ} {ts rest : List Token} {n : Node}

theorem reads_binaryTail (h : Stops level rest) : Reads 1 (.binaryTail level n) rest n rest := by
  refine reads_of_rule fun depth _ => ?_
  cases h with
  | ending => rfl
  | closing r => rfl
  | operator op r h => simp [rule, binaryTail, binarySymbol?_symbol, h.ne]

theorem reads_primaryTail (h : Stops level rest) : Reads 1 (.primaryTail n) rest n rest := by
  refine reads_of_rule fun depth _ => ?_
  cases h with
  | operator op r h => cases op <;> rfl
  | _ => rfl

/-- An atom is a factor unless a sign stands in front. -/
theorem reads_factor (hts : ∀ r, ∀ op : UnaryOp, ts ≠ .symbol op.symbol :: r) (hs : Starts ts)
    (h : Reads b .atom ts n rest) (hr : Stops level rest) : Reads (b + 4) .factor ts n rest := by
  have hprimary : Reads (b + 2) .primary ts n rest := by
    refine reads_of_rule fun depth hd => ?_
    simp [rule, primary, h depth (by omega), reads_primaryTail hr depth (by omega)]
  have hpower : Reads (b + 3) .power ts n rest := by
    refine reads_of_rule fun depth hd => ?_
    simp [rule, power, hs.skipWord?, hprimary depth hd, hr.skip?_doubleStar]
  refine reads_of_rule fun depth hd => ?_
  cases hs with
  | sign op r => exact absurd rfl (hts r op)
  | int m r => exact hpower depth hd
  | opening r => exact hpower depth hd

theorem reads_sign {op : UnaryOp} (h : Reads b .factor ts n rest) :
    Reads (b + 1) .factor (.symbol op.symbol :: ts) (.around (.unary op n.expr) [n]) rest := by
  refine reads_of_rule fun depth hd => ?_
  simp [rule, factor, unarySymbol?_symbol, h depth hd]

/-- From the operands of the loosest level up to an expression. -/
theorem reads_expression (hs : Starts ts) (h : Reads b (.binary 0) ts n rest)
    (hr : Stops level rest) : Reads (b + 5) .expression ts n rest := by
  have hcomparison : Reads (b + 1) .comparison ts n rest := by
    refine reads_of_rule fun depth hd => ?_
    simp [rule, comparison, h depth hd, hr.skipComparison?]
  have hinversion : Reads (b + 2) .inversion ts n rest := by
    refine reads_of_rule fun depth hd => ?_
    simp [rule, inversion, hs.skipWord?, hcomparison depth hd]
  have hconjunction : Reads (b + 3) .conjunction ts n rest := by
    refine reads_of_rule fun depth hd => ?_
    simp [rule, joined, hinversion depth hd, hr.nextIsWord]
  have hdisjunction : Reads (b + 4) .disjunction ts n rest := by
    refine reads_of_rule fun depth hd => ?_
    simp [rule, joined, hconjunction depth hd, hr.nextIsWord]
  refine reads_of_rule fun depth hd => ?_
  simp [rule, expression, hs.skipWord?, hdisjunction depth hd, hr.skipWord?]

theorem reads_expressions (h : Reads b .expression ts n rest) (hr : Stops level rest) :
    Reads (b + 1) .expressions ts n rest := by
  refine reads_of_rule fun depth hd => ?_
  simp [rule, expressions, h depth hd, hr.nextIs_comma]

/-- An expression in parentheses is an atom. -/
theorem reads_parens (hs : Starts ts) (hn : isStarred n = false)
    (h : Reads b .expression ts n (.symbol .closeParen :: rest)) :
    Reads (b + 3) .atom (.symbol .openParen :: ts) n rest := by
  have hnamed : Reads (b + 1) .named ts n (.symbol .closeParen :: rest) := by
    refine reads_of_rule fun depth hd => ?_
    simp [rule, named, hs.skipBinding?, h depth hd]
  have hitem : Reads (b + 2) (.item .named) ts n (.symbol .closeParen :: rest) := by
    refine reads_of_rule fun depth hd => ?_
    simp [rule, item, hs.skip?_star, hnamed depth hd]
  have hr : Stops 0 (.symbol .closeParen :: rest) := .closing rest
  have hclose : skip? .closeParen (.symbol .closeParen :: rest) = some rest := rfl
  refine reads_of_rule fun depth hd => ?_
  simp [rule, atom, parenthesized, hs.skip?_closeParen, nextIsWord, hs.skipWord?, hitem depth hd,
    hr.nextIs_comma, hn, hr.startsComprehension, hclose]

end Rules

/-! ### Trees -/

/-- Lexemes are read as the tree wherever a factor is read. A lexeme takes up to twenty calls inside
one another, most of them for the levels between an opening parenthesis and what follows it. -/
def IsFactor (t : Tree) (ls : List Lexeme) : Prop :=
  ∀ rest, Stops signLevel rest →
    Reads (20 * ls.length) .factor (ls.map Lexeme.token ++ rest) t.node rest

/-- Lexemes are read as the tree by themselves, where no operator of the level follows. -/
def StandsAt (level : ℕ) (t : Tree) (ls : List Lexeme) : Prop :=
  ∀ rest, Stops level rest → Reads (20 * ls.length + 2 * (signLevel - level) + 1) (.binary level)
    (ls.map Lexeme.token ++ rest) t.node rest

/-- Lexemes are read as the first operand of a chain of operators of the level: the tail of the
level goes on with their tree. -/
def LeadsAt (level : ℕ) (t : Tree) (ls : List Lexeme) : Prop :=
  ∀ b rest n r, Stops (level + 1) rest → Reads b (.binaryTail level t.node) rest n r →
    Reads (b + 20 * ls.length + 2 * (signLevel - level)) (.binary level)
      (ls.map Lexeme.token ++ rest) n r

section Trees
variable {level : ℕ} {t : Tree} {ls : List Lexeme}

theorem IsFactor.standsAt (h : IsFactor t ls) : StandsAt signLevel t ls := by
  intro rest hr
  refine reads_of_rule fun depth hd => ?_
  simp [rule, Grammar.binary, signLevel, binaryLevels, h rest hr depth (by omega)]

theorem LeadsAt.standsAt (h : LeadsAt level t ls) : StandsAt level t ls := by
  intro rest hr
  exact (h _ _ _ _ (hr.mono level.le_succ) (reads_binaryTail hr)).mono (by omega)

/-- An operand of the next tighter level leads one of the level. -/
theorem StandsAt.leadsAt (h : StandsAt (level + 1) t ls) (hl : level < signLevel) :
    LeadsAt level t ls := by
  intro b rest n r hr ht
  have hlt : level < binaryLevels := hl
  have hall : Reads (max (20 * ls.length + 2 * (signLevel - (level + 1)) + 1) b + 1)
      (.binary level) (ls.map Lexeme.token ++ rest) n r := by
    refine reads_of_rule fun depth hd => ?_
    simp [rule, Grammar.binary, hlt, h rest hr depth (by omega), ht depth (by omega)]
  exact hall.mono (by omega)

theorem StandsAt.of_le {k : ℕ} (h : StandsAt level t ls) (hl : level ≤ signLevel) (hk : k ≤ level) :
    StandsAt k t ls := by
  induction hk using Nat.decreasingInduction with
  | self => exact h
  | of_succ k hk ih => exact (ih.leadsAt (by omega)).standsAt

/-- Two operands and an operator lead whatever the first of them leads. -/
theorem LeadsAt.binary {op : BinaryOp} {left right : Tree} {ls rs : List Lexeme}
    (hl : LeadsAt op.level left ls) (hr : StandsAt (op.level + 1) right rs) :
    LeadsAt op.level (.binary op left right) (ls ++ .binary op :: rs) := by
  intro b rest n r hs ht
  have hlevel : 2 * (signLevel - op.level) ≤ 12 := by
    unfold signLevel
    omega
  -- the tail after the first operand takes the operator and goes on with both operands
  have htail : Reads (max (20 * rs.length + 2 * (signLevel - (op.level + 1)) + 1) b + 1)
      (.binaryTail op.level left.node)
      (.symbol op.symbol :: (rs.map Lexeme.token ++ rest)) n r := by
    refine reads_of_rule fun depth hd => ?_
    have hright := hr rest hs depth (by omega)
    have hnext := ht depth (by omega)
    simp only [rule, binaryTail, binarySymbol?_symbol, ↓reduceIte, hright]
    exact hnext
  have hstop : Stops (op.level + 1) (.symbol op.symbol :: (rs.map Lexeme.token ++ rest)) :=
    .operator op _ (Nat.lt_succ_self _)
  have hall := hl _ _ _ _ hstop htail
  simp only [List.map_append, List.map_cons, List.append_assoc, List.cons_append,
    List.length_append, List.length_cons]
  exact hall.mono (by omega)

end Trees

/-- Lexemes of a level are read as a tree. -/
structure IsRead (level : ℕ) (t : Tree) (ls : List Lexeme) : Prop where
  factor : signLevel ≤ level → IsFactor t ls
  leads : level < signLevel → LeadsAt level t ls

theorem IsRead.standsAt {level k : ℕ} {t : Tree} {ls : List Lexeme} (h : IsRead level t ls)
    (hk : k ≤ level) (hl : k ≤ signLevel) : StandsAt k t ls := by
  rcases lt_or_ge level signLevel with hlt | hge
  · exact (h.leads hlt).standsAt.of_le hlt.le hk
  · exact (h.factor hge).standsAt.of_le le_rfl hl

theorem IsRead.leadsAt {level k : ℕ} {t : Tree} {ls : List Lexeme} (h : IsRead level t ls)
    (hk : k ≤ level) (hl : k < signLevel) : LeadsAt k t ls := by
  rcases hk.eq_or_lt with rfl | hlt
  · exact h.leads hl
  · exact (h.standsAt hlt hl).leadsAt hl

/-- Whatever is read as a factor is read so at its level, which is that of signs or atoms. -/
theorem IsFactor.isRead {level : ℕ} {t : Tree} {ls : List Lexeme} (h : IsFactor t ls)
    (hl : signLevel ≤ level) : IsRead level t ls :=
  ⟨fun _ => h, fun hlt => absurd hl (not_le.mpr hlt)⟩

theorem isFactor_literal (l : Literal) : IsFactor (.literal l) [.literal l] := by
  intro rest hr
  have hatom : Reads 1 .atom (.int l.value :: rest) (Tree.literal l).node rest :=
    reads_of_rule fun depth _ => rfl
  have hsign : ∀ r, ∀ op : UnaryOp, .int l.value :: rest ≠ .symbol op.symbol :: r := by
    rintro r op ⟨⟩
  have hall := reads_factor hsign (.int l.value rest) hatom hr
  exact hall.mono (by rw [List.length_singleton]; omega)

theorem isStarred_node (t : Tree) : isStarred t.node = false := by cases t <;> rfl

theorem StandsAt.isFactor_parens {t : Tree} {ls : List Lexeme} (h : StandsAt 0 t ls)
    (hs : IsOperand ls) : IsFactor t (.opening :: (ls ++ [.closing])) := by
  intro rest hr
  have hclose : Stops 0 (.symbol .closeParen :: rest) := .closing rest
  have hstarts := hs.starts_tokens (.symbol .closeParen :: rest)
  have hatom := reads_parens hstarts (isStarred_node t)
    (reads_expression hstarts (h _ hclose) hclose)
  have hsign : ∀ ts r, ∀ op : UnaryOp,
      Token.symbol .openParen :: ts ≠ .symbol op.symbol :: r := by
    intro ts r op he
    cases op <;> cases he
  have hall := reads_factor (hsign _) (.opening _) hatom hr
  have hlength : 20 * ls.length + 2 * (signLevel - 0) + 13 ≤
      20 * (Lexeme.opening :: (ls ++ [.closing])).length := by
    simp only [signLevel, List.length_cons, List.length_append, List.length_nil]
    omega
  simpa [Lexeme.token] using hall.mono hlength

/-- Lexemes are read as the tree that they spell. -/
theorem Spells.isRead {room level : ℕ} {t : Tree} {ls : List Lexeme}
    (h : Spells room level t ls) : IsRead level t ls := by
  induction h with
  | literal h => exact (isFactor_literal _).isRead (by decide)
  | parens h ih =>
    exact ((ih.standsAt (Nat.zero_le _) (Nat.zero_le _)).isFactor_parens h.isOperand).isRead
      (by decide)
  | @unary room level op t ls hl h ih =>
    refine IsFactor.isRead (fun rest hr => ?_) le_rfl
    exact (reads_sign (ih.factor hl rest hr)).mono (by rw [List.length_cons]; omega)
  | @binary room k k' op left right ls rs hk hk' hl hr ihl ihr =>
    have hlevel := op.level_lt
    refine ⟨fun hge => absurd hge (not_le.mpr hlevel), fun _ => ?_⟩
    -- the left operand may end in an operator of the same level, the right one may not
    exact (ihl.leadsAt hk hlevel).binary (ihr.standsAt hk' hlevel)

/-- The tokens of a spelled tree are read as its node. -/
theorem Spells.read_tokens {room level depth : ℕ} {t : Tree} {ls : List Lexeme}
    (h : Spells room level t ls) (hd : 20 * ls.length + 19 ≤ depth) :
    Grammar.read depth .expressions (ls.map Lexeme.token) = some (t.node, []) := by
  have hend : Stops 0 [] := .ending
  have hstands := h.isRead.standsAt (Nat.zero_le _) (Nat.zero_le _) [] hend
  have hall := reads_expressions
    (reads_expression (h.isOperand.starts_tokens []) hstands hend) hend
  have hread := hall depth (by rw [signLevel]; omega)
  rwa [List.append_nil] at hread

end HeaderBindings.Constant
