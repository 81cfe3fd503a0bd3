import HeaderBindings.Argument.Tokens
import HeaderBindings.Proofs.Text.Pieces
import Mathlib.Data.List.Basic

/-!
# Written arguments

An argument is written from its parts: `const` or not, a base type, stars, another `const` or not, a
name, and trailing text, with blanks between them wherever two words would otherwise become one. The
tokens of the text are these parts again, unless stars and square brackets make more than one level
of indirection.
-/
namespace HeaderBindings.Argument

open Text

/-! ### The word `const` -/

/-- A text whose characters are all blanks, and which has some. -/
def IsGap (u : Text) : Prop := u ≠ [] ∧ ∀ c ∈ u, isBlank c = true

instance : DecidablePred IsGap := fun u =>
  inferInstanceAs (Decidable (u ≠ [] ∧ ∀ c ∈ u, isBlank c = true))

theorem IsGap.atWord_append {u : Text} (h : IsGap u) (t : Text) : atWord (u ++ t) = false := by
  obtain ⟨c, r, rfl⟩ := List.exists_cons_of_ne_nil h.1
  exact isWord_of_isBlank (h.2 c List.mem_cons_self)

theorem isName_const : isName "const".toList = true := by decide

namespace Tokens

/-- After the word `const` and a gap the rest goes on. -/
theorem dropConst?_gap {u t : Text} (hu : IsGap u) (ht : skipBlanks t = t) :
    dropConst? ("const".toList ++ (u ++ t)) = some t := by
  rw [dropConst?, dropPrefix?_append, Option.bind_eq_bind, Option.bind_some, hu.atWord_append,
    if_neg Bool.false_ne_true, skipBlanks_blanks_append hu.2, ht]

/-- No other name is the word `const`, even one that begins so. -/
theorem dropConst?_name {name rest : Text} (hn : isName name = true) (hc : name ≠ "const".toList)
    (hr : atWord rest = false) : dropConst? (name ++ rest) = none := by
  rw [dropConst?, Option.bind_eq_bind, Option.bind_eq_none_iff]
  intro r hd
  have hword : atWord r = true := by
    by_contra hw
    have hboth := readName?_name_append isName_const (Bool.eq_false_iff.mpr hw)
    rw [← dropPrefix?_eq_some_iff.mp hd, readName?_name_append hn hr] at hboth
    exact hc (congrArg Prod.fst (Option.some.inj hboth))
  rw [if_pos hword]

/-! ### Stars -/

/-- Stars, each with the blanks after it. -/
def writeStars (stars : List Text) : Text := stars.flatMap ('*' :: ·)

theorem readStars_blanks_append {u : Text} (h : ∀ c ∈ u, isBlank c = true) (t : Text) :
    readStars (u ++ t) = readStars t := by
  induction u with
  | nil => rfl
  | cons c u ih =>
    obtain ⟨hc, hu⟩ := List.forall_mem_cons.mp h
    have hstar : c ≠ '*' := (ne_of_isBlank (by decide) hc).symm
    rw [List.cons_append, readStars, if_neg hstar, if_pos hc, ih hu]

theorem readStars_writeStars {stars : List Text} (h : ∀ u ∈ stars, ∀ c ∈ u, isBlank c = true)
    {c : Char} (hc : isWord c = true) (t : Text) :
    readStars (writeStars stars ++ c :: t) = (stars.length, c :: t) := by
  induction stars with
  | nil =>
    have hstar : c ≠ '*' := by
      rintro rfl
      revert hc
      decide
    simp [writeStars, readStars, hstar, isBlank_of_isWord hc]
  | cons u stars ih =>
    obtain ⟨hu, hstars⟩ := List.forall_mem_cons.mp h
    have hstep : writeStars (u :: stars) ++ c :: t =
        '*' :: (u ++ (writeStars stars ++ c :: t)) := by
      simp [writeStars]
    rw [hstep, readStars, if_pos rfl, readStars_blanks_append hu, ih hstars]
    rfl

end Tokens

/-! ### The form of an argument -/

/-- An argument as it is written. A `const` is given by the blanks after it, a star likewise. -/
structure Form where
  before : Text
  leadingConst : Option Text
  baseType : Text
  afterType : Text
  stars : List Text
  innerConst : Option Text
  name : Text
  afterName : Text
  qualifiers : Text
  after : Text
deriving DecidableEq, Repr

/-- The word `const` and the blanks after it, if it is there. -/
def writeConst (gap? : Option Text) : Text := (gap?.map ("const".toList ++ ·)).getD []

namespace Form

def write (f : Form) : Text :=
  f.before ++ (writeConst f.leadingConst ++ (f.baseType ++ (f.afterType ++
    (Tokens.writeStars f.stars ++ (writeConst f.innerConst ++ (f.name ++ (f.afterName ++
      (f.qualifiers ++ f.after))))))))

/-- What the parts of an argument may be: two words next to each other have a gap between them. -/
structure IsPlain (f : Form) : Prop where
  before : ∀ c ∈ f.before, isBlank c = true
  leadingConst : ∀ u ∈ f.leadingConst, IsGap u
  baseType : isName f.baseType = true ∧ f.baseType ≠ "const".toList
  afterType : (∀ c ∈ f.afterType, isBlank c = true) ∧ (f.stars = [] → f.afterType ≠ [])
  stars : ∀ u ∈ f.stars, ∀ c ∈ u, isBlank c = true
  innerConst : ∀ u ∈ f.innerConst, IsGap u
  name : isName f.name = true ∧ f.name ≠ "const".toList
  afterName : (∀ c ∈ f.afterName, isBlank c = true) ∧
    (atWord f.qualifiers = true → f.afterName ≠ [])
  qualifiers : IsTrimmed f.qualifiers
  after : ∀ c ∈ f.after, isBlank c = true

/-- The levels of indirection that an argument spells after its base type. -/
def indirection (f : Form) : ℕ := f.stars.length + f.qualifiers.count '['

/-- The parts of an argument without the blanks between them. -/
def tokens (f : Form) : Tokens where
  text := f.write
  baseType := f.baseType
  pointerDepth := f.indirection
  isConst := f.leadingConst.isSome
  name := some f.name
  qualifiers := f.qualifiers

end Form

/-! ### Reading what is written -/

/-- What begins with a name, after an optional `const`, and ends with one is trimmed. -/
theorem isTrimmed_between (gap? : Option Text) (mid : Text) {first last : Text}
    (hf : isName first = true) (hl : isName last = true)
    (hends : ∃ u, writeConst gap? ++ (first ++ mid) = u ++ last) :
    IsTrimmed (writeConst gap? ++ (first ++ mid)) := by
  constructor
  · intro c hc
    have hword : isWord c = true := by
      obtain ⟨d, r, rfl, hd, -⟩ := isName_iff.mp hf
      cases gap? with
      | none =>
        cases hc
        exact isWord_of_isNameStart hd
      | some u =>
        cases hc
        decide
    exact isBlank_of_isWord hword
  · intro c hc
    obtain ⟨u, hu⟩ := hends
    obtain ⟨d, r, rfl, -⟩ := isName_iff.mp hl
    rw [hu, List.getLast?_append_of_ne_nil _ (List.cons_ne_nil _ _)] at hc
    exact (IsWordText.of_isName hl).isTrimmed.2 c hc

/-- Where a word begins, an optional `const` with its gap is told from it. -/
theorem dropConst?_writeConst {gap? : Option Text} (hg : ∀ u ∈ gap?, IsGap u) {name rest : Text}
    (hn : isName name = true) (hc : name ≠ "const".toList) (hr : atWord rest = false) :
    Tokens.dropConst? (writeConst gap? ++ (name ++ rest)) = gap?.map fun _ => name ++ rest := by
  cases gap? with
  | none => exact (Tokens.dropConst?_name hn hc hr :)
  | some u =>
    obtain ⟨c, r, rfl, hstart, -⟩ := isName_iff.mp hn
    have hskip := skipBlanks_cons_of_not (isBlank_of_isWord (isWord_of_isNameStart hstart))
      (r ++ rest)
    rw [writeConst, Option.map_some, Option.getD_some, List.append_assoc]
    exact Tokens.dropConst?_gap (hg u rfl) hskip

namespace Form

variable {f : Form} (h : f.IsPlain)
include h

/-- What follows the base type begins with no word character. -/
theorem IsPlain.atWord_stars (t : Text) :
    atWord (f.afterType ++ (Tokens.writeStars f.stars ++ t)) = false := by
  by_cases ha : f.afterType = []
  · have hs : f.stars ≠ [] := fun hs => h.afterType.2 hs ha
    obtain ⟨u, us, hus⟩ := List.exists_cons_of_ne_nil hs
    rw [ha, hus]
    rfl
  · exact IsGap.atWord_append ⟨ha, h.afterType.1⟩ _

/-- What follows the name begins with no word character. -/
theorem IsPlain.atWord_qualifiers :
    atWord (f.afterName ++ (f.qualifiers ++ f.after)) = false := by
  by_cases ha : f.afterName = []
  · have hq : atWord f.qualifiers = false := by
      by_contra hw
      exact h.afterName.2 (by simpa using hw) ha
    rw [ha, List.nil_append]
    cases hf : f.qualifiers with
    | nil =>
      rw [List.nil_append]
      cases hafter : f.after with
      | nil => rfl
      | cons c r =>
        refine isWord_of_isBlank (h.after c ?_)
        rw [hafter]
        exact List.mem_cons_self
    | cons c r =>
      rw [hf] at hq
      exact hq
  · exact IsGap.atWord_append ⟨ha, h.afterName.1⟩ _

/-- What is left of a trailing text and the blanks around it. -/
def trailing (f : Form) : Text :=
  dropRightWhile isBlank (f.afterName ++ (f.qualifiers ++ f.after))

theorem IsPlain.trim_trailing : trim f.trailing = f.qualifiers := by
  rw [trailing, trim_dropRightWhile, trim_blanks_append h.afterName.1, trim_append_blanks h.after,
    trim_eq_self h.qualifiers]

theorem IsPlain.atWord_trailing : atWord f.trailing = false := by
  have hw := h.atWord_qualifiers
  obtain ⟨v, hv, -⟩ := exists_dropRightWhile_append isBlank
    (f.afterName ++ (f.qualifiers ++ f.after))
  rw [hv] at hw
  change atWord (f.trailing ++ v) = false at hw
  cases ht : f.trailing with
  | nil => rfl
  | cons c r =>
    rw [ht] at hw
    exact hw

/-- The tokens of a written argument are its parts, unless they make more than one level of
indirection. -/
theorem read_write_eq_ite : Tokens.read false f.write =
    if f.indirection > 1 then .error ⟨.doubleIndirection, f.write⟩ else .ok f.tokens := by
  obtain ⟨c, r, hstart, hc, -⟩ := isName_iff.mp h.name.1
  -- the text from the second `const` on, with the blanks at its end dropped
  have hinner : trim (writeConst f.innerConst ++ (f.name ++ f.trailing)) =
      writeConst f.innerConst ++ (f.name ++ f.trailing) := by
    have ht := isTrimmed_between f.innerConst [] h.name.1 h.name.1
      ⟨writeConst f.innerConst, by simp⟩
    have htrim := trim_append ht (by simp [hstart]) f.trailing
    rw [trailing, dropRightWhile_dropRightWhile, ← trailing] at htrim
    simpa using htrim
  have hall : trim f.write = writeConst f.leadingConst ++ (f.baseType ++ (f.afterType ++
      (Tokens.writeStars f.stars ++ (writeConst f.innerConst ++ (f.name ++ f.trailing))))) := by
    have hwrite : f.write = f.before ++ ((writeConst f.leadingConst ++ (f.baseType ++
        (f.afterType ++ (Tokens.writeStars f.stars ++ (writeConst f.innerConst ++ f.name))))) ++
          (f.afterName ++ (f.qualifiers ++ f.after))) := by
      simp [write]
    have ht := isTrimmed_between f.leadingConst (f.afterType ++
      (Tokens.writeStars f.stars ++ (writeConst f.innerConst ++ f.name))) h.baseType.1 h.name.1
      ⟨writeConst f.leadingConst ++ (f.baseType ++ (f.afterType ++
        (Tokens.writeStars f.stars ++ writeConst f.innerConst))), by simp⟩
    rw [hwrite, trim_blanks_append h.before, trim_append ht (by simp [hstart]), ← trailing]
    simp
  have hgetD : ∀ (gap? : Option Text) (t : Text),
      (gap?.map fun _ => t).getD (writeConst gap? ++ t) = t := by
    intro gap? t
    cases gap? <;> rfl
  have hstars : Tokens.readStars (f.afterType ++ (Tokens.writeStars f.stars ++
      (writeConst f.innerConst ++ (f.name ++ f.trailing)))) =
        (f.stars.length, writeConst f.innerConst ++ (f.name ++ f.trailing)) := by
    rw [Tokens.readStars_blanks_append h.afterType.1]
    cases hi : f.innerConst with
    | none =>
      rw [hstart]
      exact Tokens.readStars_writeStars h.stars (isWord_of_isNameStart hc) _
    | some u => exact Tokens.readStars_writeStars h.stars (c := 'c') (by decide) _
  rw [Tokens.read, hall, dropConst?_writeConst h.leadingConst h.baseType.1 h.baseType.2
    (h.atWord_stars _), hgetD, readName?_name_append h.baseType.1 (h.atWord_stars _)]
  dsimp only
  rw [hstars]
  dsimp only
  rw [hinner, dropConst?_writeConst h.innerConst h.name.1 h.name.2 h.atWord_trailing, hgetD,
    Tokens.readName, if_neg Bool.false_ne_true, readName?_name_append h.name.1 h.atWord_trailing]
  simp [h.trim_trailing, indirection, tokens, bind, Except.bind]

end Form

/-- An argument whose words all begin with `const`, with a star between two of them. -/
def constForm : Form where
  before := ['\n']
  leadingConst := some ['\t']
  baseType := "constant".toList
  afterType := []
  stars := [[' ']]
  innerConst := some [' ', ' ']
  name := "consté".toList
  afterName := []
  qualifiers := "= const x".toList
  after := [' ']

theorem read_write_eq_ite_constForm :
    Tokens.read false constForm.write = .ok constForm.tokens ∧
      Tokens.read false { constForm with qualifiers := "[2]".toList }.write =
        .error ⟨.doubleIndirection, "\nconst\tconstant* const  consté[2] ".toList⟩ := by
  have hwords : IsTrimmed "= const x".toList := by
    constructor <;> rintro c ⟨⟩ <;> decide
  have hbrackets : IsTrimmed "[2]".toList := by
    constructor <;> rintro c ⟨⟩ <;> decide
  constructor
  · exact Form.read_write_eq_ite (f := constForm) ⟨by decide, by decide, by decide, by decide,
      by decide, by decide, by decide, by decide, hwords, by decide⟩
  · exact Form.read_write_eq_ite (f := { constForm with qualifiers := "[2]".toList })
      ⟨by decide, by decide, by decide, by decide, by decide, by decide, by decide, by decide,
        hbrackets, by decide⟩

end HeaderBindings.Argument
