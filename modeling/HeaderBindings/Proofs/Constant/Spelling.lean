import HeaderBindings.Proofs.Constant.Tree
import Mathlib.Data.List.Chain

/-!
# How trees are spelled

A tree is spelled by lexemes. The six levels of binary operators are those of C, all of which
associate to the left; signs bind tighter, and whatever stands in parentheses binds tightest. In a
text any number of spaces may stand around the lexemes.
-/
namespace HeaderBindings.Constant

inductive Lexeme
  | literal (l : Literal)
  | unary (op : UnaryOp)
  | binary (op : BinaryOp)
  | opening
  | closing

/-! ### Levels -/

/-- The level of a binary operator; level 0 binds loosest. -/
def BinaryOp.level : BinaryOp → ℕ
  | .bitOr => 0
  | .bitXor => 1
  | .bitAnd => 2
  | .shiftLeft => 3
  | .shiftRight => 3
  | .add => 4
  | .sub => 4
  | .mul => 5
  | .div => 5
  | .mod => 5

/-- The level of an expression with a sign in front. -/
def signLevel : ℕ := 6

/-- The level of a literal and of an expression in parentheses. -/
def atomLevel : ℕ := 7

theorem BinaryOp.level_lt (op : BinaryOp) : op.level < signLevel := by cases op <;> decide

/-- A decimal literal must not be longer than what is read. -/
def Literal.IsShort : Literal → Prop
  | .decimal n => (Text.ofNat n).length ≤ maxLiteralDigits
  | .octal _ _ => True

instance : DecidablePred Literal.IsShort
  | .decimal n => inferInstanceAs (Decidable ((Text.ofNat n).length ≤ maxLiteralDigits))
  | .octal _ _ => inferInstanceAs (Decidable True)

/-- A tree is spelled by lexemes as an expression of the given level. No more parentheses than
there is room for stand inside one another. -/
inductive Spells : ℕ → ℕ → Tree → List Lexeme → Prop
  | literal {room : ℕ} {l : Literal} (h : l.IsShort) :
    Spells room atomLevel (.literal l) [.literal l]
  | parens {room level : ℕ} {t : Tree} {ls : List Lexeme} (h : Spells room level t ls) :
    Spells (room + 1) atomLevel t (.opening :: (ls ++ [.closing]))
  | unary {room level : ℕ} {op : UnaryOp} {t : Tree} {ls : List Lexeme} (hl : signLevel ≤ level)
    (h : Spells room level t ls) : Spells room signLevel (.unary op t) (.unary op :: ls)
  | binary {room k k' : ℕ} {op : BinaryOp} {left right : Tree} {ls rs : List Lexeme}
    (hk : op.level ≤ k) (hk' : op.level < k') (hl : Spells room k left ls)
    (hr : Spells room k' right rs) :
    Spells room op.level (.binary op left right) (ls ++ .binary op :: rs)

/-! ### Texts -/

def UnaryOp.symbol : UnaryOp → Symbol
  | .plus => .plus
  | .minus => .minus
  | .complement => .tilde

def BinaryOp.symbol : BinaryOp → Symbol
  | .add => .plus
  | .sub => .minus
  | .mul => .star
  | .div => .slash
  | .mod => .percent
  | .shiftLeft => .shiftLeft
  | .shiftRight => .shiftRight
  | .bitAnd => .ampersand
  | .bitOr => .bar
  | .bitXor => .caret

def UnaryOp.text : UnaryOp → Text
  | .plus => ['+']
  | .minus => ['-']
  | .complement => ['~']

/-- An octal digit. -/
def octalChar (d : Fin 8) : Char := Char.ofNat (48 + d)

def Literal.text : Literal → Text
  | .decimal n => Text.ofNat n
  | .octal d ds => '0' :: (d :: ds).map octalChar

namespace Lexeme

def token : Lexeme → Token
  | literal l => .int l.value
  | unary op => .symbol op.symbol
  | binary op => .symbol op.symbol
  | opening => .symbol .openParen
  | closing => .symbol .closeParen

def text : Lexeme → Text
  | literal l => l.text
  | unary op => op.text
  | binary op => op.text.toList
  | opening => ['(']
  | closing => [')']

/-- Whether an operand begins with the lexeme. -/
def startsOperand : Lexeme → Bool
  | literal _ => true
  | unary _ => true
  | opening => true
  | _ => false

/-- Whether an operand ends with the lexeme. -/
def endsOperand : Lexeme → Bool
  | literal _ => true
  | closing => true
  | _ => false

end Lexeme

/-- Lexemes in some way of writing, each with so many spaces after it. -/
def layout (write : Lexeme → Text) (ls : List (Lexeme × ℕ)) : Text :=
  ls.flatMap fun p => write p.1 ++ List.replicate p.2 ' '

/-- A text of lexemes with any number of spaces before, between and after them. -/
def IsSpaced (ls : List Lexeme) (t : Text) : Prop :=
  ∃ before gaps, gaps.map Prod.fst = ls ∧
    t = List.replicate before ' ' ++ layout Lexeme.text gaps

/-! ### What stands beside what -/

/-- An operand begins exactly where none has just ended. -/
def Follows (l l' : Lexeme) : Prop := l.endsOperand = !l'.startsOperand

/-- The lexemes of an operand: they begin and end one, and each follows the one before. -/
structure IsOperand (ls : List Lexeme) : Prop where
  starts : ∃ l ∈ ls.head?, l.startsOperand = true
  ends : ∃ l ∈ ls.getLast?, l.endsOperand = true
  chain : ls.IsChain Follows

section Operands
variable {ls rs : List Lexeme}

theorem IsOperand.ne_nil (h : IsOperand ls) : ls ≠ [] := by
  rintro rfl
  obtain ⟨l, hl, -⟩ := h.starts
  cases hl

/-- What begins an operand goes before one. -/
theorem IsOperand.cons {l : Lexeme} (h : IsOperand ls) (hs : l.startsOperand = true)
    (he : l.endsOperand = false) : IsOperand (l :: ls) := by
  obtain ⟨l', hl', hstart⟩ := h.starts
  obtain ⟨e, hme, hend⟩ := h.ends
  refine ⟨⟨l, rfl, hs⟩, ⟨e, ?_, hend⟩, List.isChain_cons.mpr ⟨?_, h.chain⟩⟩
  · rw [List.getLast?_cons, Option.mem_def.mp hme]
    rfl
  · intro y hy
    obtain rfl : l' = y := Option.some.inj ((Option.mem_def.mp hl').symm.trans hy)
    rw [Follows, he, hstart]
    rfl

/-- Two operands with an operator or nothing new between them. -/
theorem IsOperand.append (hl : IsOperand ls) {mid : List Lexeme} (hm : mid ≠ [])
    (hchain : mid.IsChain Follows) (hstart : ∀ l ∈ mid.head?, l.startsOperand = false)
    (hend : ∃ l ∈ mid.getLast?, l.endsOperand = true) : IsOperand (ls ++ mid) := by
  obtain ⟨s, hs, hss⟩ := hl.starts
  obtain ⟨e, he, hee⟩ := hl.ends
  refine ⟨⟨s, by simp [Option.mem_def.mp hs], hss⟩, ?_, ?_⟩
  · rwa [List.getLast?_append_of_ne_nil _ hm]
  · refine List.isChain_append.mpr ⟨hl.chain, hchain, fun x hx y hy => ?_⟩
    obtain rfl : e = x := Option.some.inj ((Option.mem_def.mp he).symm.trans hx)
    rw [Follows, hee, hstart y hy]
    rfl

end Operands

theorem Spells.isOperand {room level : ℕ} {t : Tree} {ls : List Lexeme}
    (h : Spells room level t ls) : IsOperand ls := by
  induction h with
  | literal h => exact ⟨⟨_, rfl, rfl⟩, ⟨_, rfl, rfl⟩, .singleton _⟩
  | parens h ih =>
    have hc : IsOperand (_ ++ [Lexeme.closing]) :=
      ih.append (List.cons_ne_nil _ _) (.singleton _) (by simp [Lexeme.startsOperand])
        ⟨_, rfl, rfl⟩
    exact hc.cons rfl rfl
  | unary hl h ih => exact ih.cons rfl rfl
  | @binary room k k' op left right ls rs hk hk' hl hr ihl ihr =>
    obtain ⟨r, hmr, hstart⟩ := ihr.starts
    obtain ⟨e, hme, hend⟩ := ihr.ends
    refine ihl.append (List.cons_ne_nil _ _) (List.isChain_cons.mpr ⟨?_, ihr.chain⟩)
      (by simp [Lexeme.startsOperand]) ⟨e, ?_, hend⟩
    · intro y hy
      obtain rfl : r = y := Option.some.inj ((Option.mem_def.mp hmr).symm.trans hy)
      rw [Follows, hstart]
      rfl
    · rw [List.getLast?_cons, Option.mem_def.mp hme]
      rfl

theorem bracketsAfter?_operator (depth : ℕ) {s : Symbol}
    (h : s ≠ .openParen ∧ s ≠ .openBracket ∧ s ≠ .openBrace ∧ s ≠ .closeParen ∧
      s ≠ .closeBracket ∧ s ≠ .closeBrace) : bracketsAfter? depth (.symbol s) = some depth := by
  simp [bracketsAfter?, h]

/-- Brackets are balanced, and no more are open at once than there is room for. -/
theorem Spells.brackets {room level : ℕ} {t : Tree} {ls : List Lexeme}
    (h : Spells room level t ls) {depth : ℕ} (hd : depth + room ≤ maxOpenBrackets) :
    (ls.map Lexeme.token).foldlM bracketsAfter? depth = some depth := by
  induction h generalizing depth with
  | literal h => rfl
  | @parens room level t ls h ih =>
    have hopen : bracketsAfter? depth (.symbol .openParen) = some (depth + 1) := by
      have hlt : depth < maxOpenBrackets := by omega
      simp [bracketsAfter?, hlt]
    have hclose : bracketsAfter? (depth + 1) (.symbol .closeParen) = some depth := by
      simp [bracketsAfter?]
    have hin := @ih (depth + 1) (by omega)
    simp [Lexeme.token, hopen, hin, hclose]
  | @unary room level op t ls hl h ih =>
    have hop : bracketsAfter? depth (.symbol op.symbol) = some depth :=
      bracketsAfter?_operator depth (by cases op <;> decide)
    simp [Lexeme.token, hop, ih hd]
  | @binary room k k' op left right ls rs hk hk' hl hr ihl ihr =>
    have hop : bracketsAfter? depth (.symbol op.symbol) = some depth :=
      bracketsAfter?_operator depth (by cases op <;> decide)
    simp [Lexeme.token, hop, ihl hd, ihr hd]

theorem Spells.isShort {room level : ℕ} {t : Tree} {ls : List Lexeme}
    (h : Spells room level t ls) : ∀ l, Lexeme.literal l ∈ ls → l.IsShort := by
  induction h with
  | literal h =>
    intro l hl
    cases List.mem_singleton.mp hl
    exact h
  | parens h ih =>
    intro l hl
    exact ih l (by simpa using hl)
  | unary hl h ih =>
    intro l hm
    exact ih l (by simpa using hm)
  | binary hk hk' hl hr ihl ihr =>
    intro l hm
    rcases (by simpa using hm : _ ∨ _) with hm | hm
    · exact ihl l hm
    · exact ihr l hm

end HeaderBindings.Constant
