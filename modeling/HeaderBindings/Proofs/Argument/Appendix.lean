import HeaderBindings.Proofs.Argument.Writing

/-!
# Arguments with something behind them

Reading an argument with an appendix behind it goes through the same stages as reading the argument
alone. After each stage either the same appendix is behind what is left, or the argument is used up
and only the appendix is left. So an appendix matters in two ways only: the square brackets that it
opens are counted as levels of indirection, and where the argument ends before its name the appendix
has to name it.
-/
namespace HeaderBindings.Argument

open Text

/-! ### What stands before the name -/

namespace Tokens

/-- What is read of an argument before its name, and the rest, which begins with the name. -/
structure Start where
  isConst : Bool
  baseType : Text
  stars : ℕ
  rest : Text
deriving DecidableEq, Repr

def readStart? (t : Text) : Option Start :=
  (readName? ((dropConst? (trim t)).getD (trim t))).map fun p =>
    let rest := trim (readStars p.2).2
    ⟨(dropConst? (trim t)).isSome, p.1, (readStars p.2).1, (dropConst? rest).getD rest⟩

/-- What classification sees of tokens: all but the texts that are kept for messages. -/
structure Outline where
  baseType : Text
  pointerDepth : ℕ
  isConst : Bool
  name : Option Text
deriving DecidableEq, Repr

/-- The outline of what is read, or the family of the rejection. -/
def outline : Except Rejection Tokens → Except Family Outline
  | .error r => .error r.cause.family
  | .ok tokens => .ok ⟨tokens.baseType, tokens.pointerDepth, tokens.isConst, tokens.name⟩

/-- The outline of an argument behind which so many square brackets are opened. -/
def outlineWith (n : ℕ) (t : Text) : Except Family Outline :=
  match readStart? t with
  | none => .error .missingToken
  | some s =>
    match readName? s.rest with
    | none => .error .missingToken
    | some (name, q) =>
      if s.stars + q.count '[' + n > 1 then .error .doubleIndirection
      else .ok ⟨s.baseType, s.stars + q.count '[' + n, s.isConst, some name⟩

theorem outlineWith_eq_ok {n : ℕ} {t : Text} {o : Outline} (h : outlineWith n t = .ok o) :
    ∃ s name q, readStart? t = some s ∧ readName? s.rest = some (name, q) ∧
      o = ⟨s.baseType, s.stars + q.count '[' + n, s.isConst, some name⟩ := by
  unfold outlineWith at h
  cases hs : readStart? t with
  | none =>
    rw [hs] at h
    cases h
  | some s =>
    rw [hs] at h
    dsimp only at h
    cases hq : readName? s.rest with
    | none =>
      rw [hq] at h
      cases h
    | some p =>
      rw [hq] at h
      dsimp only at h
      split_ifs at h
      exact ⟨s, p.1, p.2, rfl, hq, (Except.ok.inj h).symm⟩

theorem count_trim {c : Char} (hc : isBlank c = false) (t : Text) :
    (trim t).count c = t.count c := by
  obtain ⟨u, v, ht, hu, hv⟩ := exists_blanks_trim t
  have hblanks : ∀ w : Text, (∀ d ∈ w, isBlank d = true) → w.count c = 0 := by
    intro w hw
    refine List.count_eq_zero.mpr fun hm => ?_
    rw [hw c hm] at hc
    cases hc
  conv_rhs => rw [ht, List.count_append, List.count_append, hblanks u hu, hblanks v hv]
  omega

/-- An argument is read by what stands before its name, and then its name. -/
theorem outline_read (t : Text) : outline (read false t) = outlineWith 0 t := by
  rw [read, outlineWith, readStart?]
  cases hbase : readName? ((dropConst? (trim t)).getD (trim t)) with
  | none => rfl
  | some p =>
    dsimp only [Option.map_some]
    generalize (dropConst? (trim (readStars p.2).2)).getD (trim (readStars p.2).2) = rest
    rw [readName, if_neg Bool.false_ne_true]
    cases hname : readName? rest with
    | none => rfl
    | some np =>
      simp only [bind, Except.bind, count_trim (c := '[') (by decide), Nat.add_zero]
      split_ifs <;> rfl

/-! ### Reading with something behind -/

/-- What may stand behind an argument: it is no argument by itself. -/
structure IsAppendix (a : Text) : Prop where
  trimmed : IsTrimmed a
  noConst : dropConst? a = none
  noStars : readStars a = (0, a)
  unread : outline (read false a) = .error .missingToken

/-- An appendix with the blanks before it, which no word of the argument goes on into. -/
structure Holds (a x : Text) : Prop where
  apart : atWord x = false
  rest : skipBlanks x = a
  last : ∀ c ∈ x.getLast?, isBlank c = false

/-- How a text goes on that has an appendix behind it. Where the text is used up only the appendix
is left. -/
inductive Extends (a : Text) : Text → Text → Prop
  | used : Extends a [] a
  | behind {t x : Text} (hne : t ≠ []) (hx : Holds a x) : Extends a t (t ++ x)

section Extends
variable {a x : Text}

theorem Holds.blanks_append (hx : Holds a x) (hne : x ≠ []) {u : Text}
    (hu : ∀ c ∈ u, isBlank c = true) : Holds a (u ++ x) := by
  refine ⟨?_, (skipBlanks_blanks_append hu x).trans hx.rest, ?_⟩
  · cases u with
    | nil => exact hx.apart
    | cons c u => exact isWord_of_isBlank (hu c List.mem_cons_self)
  · rw [List.getLast?_append_of_ne_nil u hne]
    exact hx.last

theorem Holds.eq_append (hx : Holds a x) : ∃ u, x = u ++ a ∧ ∀ c ∈ u, isBlank c = true := by
  refine ⟨x.takeWhile isBlank, ?_, fun c hc => List.mem_takeWhile_imp hc⟩
  rw [← hx.rest]
  exact List.takeWhile_append_dropWhile.symm

theorem Holds.trim_eq (ha : IsTrimmed a) (hx : Holds a x) : trim x = a := by
  obtain ⟨u, rfl, hu⟩ := hx.eq_append
  rw [trim_blanks_append hu, trim_eq_self ha]

theorem Holds.after_blanks (hx : Holds a x) (t : Text) :
    Extends a (skipBlanks t) (skipBlanks (t ++ x)) := by
  cases ht : skipBlanks t with
  | nil =>
    rw [skipBlanks_blanks_append (List.dropWhile_eq_nil_iff.mp ht), hx.rest]
    exact .used
  | cons c r =>
    have happend : skipBlanks (t ++ x) = (c :: r) ++ x := by
      unfold skipBlanks at ht ⊢
      rw [List.dropWhile_append, ht]
      rfl
    rw [happend]
    exact .behind (List.cons_ne_nil _ _) hx

theorem Holds.after_trim (ha : IsTrimmed a) (hx : Holds a x) (t : Text) :
    Extends a (trim t) (trim (t ++ x)) := by
  obtain ⟨u, v, ht, hu, hv⟩ := exists_blanks_trim t
  by_cases hne : trim t = []
  · have hblank : ∀ c ∈ t, isBlank c = true := by
      rw [ht, hne]
      exact List.forall_mem_append.mpr ⟨hu, hv⟩
    rw [hne, trim_blanks_append hblank, hx.trim_eq ha]
    exact .used
  by_cases hx0 : x = []
  · obtain rfl : a = [] := by rw [← hx.rest, hx0]; rfl
    have hend := Extends.behind hne hx
    rw [hx0, List.append_nil] at hend ⊢
    exact hend
  · -- the blanks behind the argument now stand before the appendix
    have hbehind := hx.blanks_append hx0 hv
    have hall : trim (t ++ x) = trim t ++ (v ++ x) := by
      conv_lhs => rw [ht, List.append_assoc, trim_blanks_append hu, List.append_assoc,
        trim_append (isTrimmed_trim t) hne, dropRightWhile_eq_self hbehind.last]
    rw [hall]
    exact .behind hne hbehind

theorem Extends.after_trim (ha : IsTrimmed a) {t u : Text} (h : Extends a t u) :
    Extends a (trim t) (trim u) := by
  cases h with
  | used =>
    rw [trim_eq_self ha]
    exact .used
  | behind hne hx => exact hx.after_trim ha t

theorem dropPrefix?_append_of_apart {p : Text} (hp : IsWordText p) (hx : atWord x = false)
    (t : Text) : dropPrefix? p (t ++ x) = (dropPrefix? p t).map (· ++ x) := by
  induction p generalizing t with
  | nil => rfl
  | cons c p ih =>
    obtain ⟨hc, hp⟩ := List.forall_mem_cons.mp hp
    cases t with
    | nil =>
      cases x with
      | nil => rfl
      | cons d x =>
        have hd : c ≠ d := by
          rintro rfl
          rw [atWord, hc] at hx
          cases hx
        simp [dropPrefix?, hd]
    | cons d t =>
      rw [List.cons_append, dropPrefix?, dropPrefix?]
      split_ifs
      · exact ih hp t
      · rfl

theorem atWord_append {t : Text} (hx : atWord x = false) : atWord (t ++ x) = atWord t := by
  cases t with
  | nil => exact hx
  | cons c t => rfl

theorem readName?_append_of_apart (hx : atWord x = false) {t : Text} (ht : t ≠ []) :
    readName? (t ++ x) = (readName? t).map fun p => (p.1, p.2 ++ x) := by
  cases h : readName? t with
  | none =>
    obtain ⟨c, r, rfl⟩ := List.exists_cons_of_ne_nil ht
    have hc : isNameStart c = false := by
      rw [readName?] at h
      split_ifs at h with hc
      exact Bool.eq_false_iff.mpr hc
    simp [readName?, hc]
  | some p =>
    rw [readName?_append h, List.append_assoc]
    exact readName?_name_append (isName_of_readName? h)
      ((atWord_append hx).trans (atWord_of_readName? h))

/-- A `const` is read as it is without the appendix. -/
theorem Extends.after_const (ha : IsAppendix a) {t u : Text} (h : Extends a t u) :
    (dropConst? u).isSome = (dropConst? t).isSome ∧
      Extends a ((dropConst? t).getD t) ((dropConst? u).getD u) := by
  cases h with
  | used =>
    rw [ha.noConst]
    exact ⟨rfl, .used⟩
  | @behind t x hne hx =>
    have hconst : IsWordText "const".toList := .of_isName isName_const
    unfold Tokens.dropConst?
    rw [dropPrefix?_append_of_apart hconst hx.apart]
    cases dropPrefix? "const".toList t with
    | none => exact ⟨rfl, .behind hne hx⟩
    | some r =>
      simp only [Option.map_some, Option.bind_eq_bind, Option.bind_some, atWord_append hx.apart]
      split_ifs
      · exact ⟨rfl, .behind hne hx⟩
      · exact ⟨rfl, hx.after_blanks r⟩

/-- Stars are read as they are without the appendix. -/
theorem Holds.after_stars (ha : IsAppendix a) (hx : Holds a x) (t : Text) :
    (readStars (t ++ x)).1 = (readStars t).1 ∧
      Extends a (readStars t).2 (readStars (t ++ x)).2 := by
  induction t with
  | nil =>
    obtain ⟨u, rfl, hu⟩ := hx.eq_append
    rw [List.nil_append, readStars_blanks_append hu, ha.noStars]
    exact ⟨rfl, .used⟩
  | cons c t ih =>
    rw [List.cons_append, Tokens.readStars, Tokens.readStars]
    split_ifs
    · exact ⟨congrArg (· + 1) ih.1, ih.2⟩
    · exact ih
    · exact ⟨rfl, .behind (List.cons_ne_nil _ _) hx⟩

theorem Holds.count (hx : Holds a x) : x.count '[' = a.count '[' := by
  obtain ⟨u, rfl, hu⟩ := hx.eq_append
  have hnone : u.count '[' = 0 := by
    refine List.count_eq_zero.mpr fun hm => ?_
    have hb := hu '[' hm
    revert hb
    decide
  rw [List.count_append, hnone, Nat.zero_add]

/-- Where nothing of a text is left, an appendix makes it no argument. -/
theorem outline_of_used (ha : IsAppendix a) {t : Text}
    (h : (dropConst? (trim t)).getD (trim t) = a) :
    outline (read false t) = .error .missingToken := by
  have hunread := ha.unread
  rw [outline_read, outlineWith, readStart?, trim_eq_self ha.trimmed, ha.noConst,
    Option.getD_none] at hunread
  rw [outline_read, outlineWith, readStart?, h]
  cases hbase : readName? a with
  | none => rfl
  | some p =>
    rw [hbase] at hunread
    dsimp only [Option.map_some] at hunread ⊢
    generalize (dropConst? (trim (readStars p.2).2)).getD (trim (readStars p.2).2) = rest
      at hunread ⊢
    cases hname : readName? rest with
    | none => rfl
    | some np =>
      rw [hname] at hunread
      dsimp only at hunread
      split_ifs at hunread
      cases hunread

/-- The start of an argument is read as it is without the appendix. -/
theorem readStart?_append (ha : IsAppendix a) (hx : Holds a x) (t : Text) :
    (readStart? t = none → outline (read false (t ++ x)) = .error .missingToken) ∧
      ∀ s, readStart? t = some s →
        ∃ rest, readStart? (t ++ x) = some { s with rest := rest } ∧ Extends a s.rest rest := by
  obtain ⟨hconst, hext⟩ := (hx.after_trim ha.trimmed t).after_const ha
  unfold readStart?
  generalize hu : (dropConst? (trim t)).getD (trim t) = u at hext ⊢
  generalize hu' : (dropConst? (trim (t ++ x))).getD (trim (t ++ x)) = u' at hext ⊢
  rw [hconst]
  cases hext with
  | used => exact ⟨fun _ => outline_of_used ha hu', nofun⟩
  | @behind _ x hne hx =>
    rw [readName?_append_of_apart hx.apart hne]
    cases hbase : readName? u with
    | none =>
      refine ⟨fun _ => ?_, nofun⟩
      rw [outline_read, outlineWith, readStart?, hu', readName?_append_of_apart hx.apart hne, hbase]
      rfl
    | some p =>
      refine ⟨nofun, ?_⟩
      rintro s ⟨⟩
      obtain ⟨hstars, hrest⟩ := hx.after_stars ha p.2
      refine ⟨_, ?_, ((hrest.after_trim ha.trimmed).after_const ha).2⟩
      simp [hstars]

end Extends

/-- An argument that ends before its name. -/
def IsUnnamed (t : Text) : Prop := ∃ s, readStart? t = some s ∧ s.rest = []

/-- The outline of an argument that is named, or of what is none, hangs on no more than the number
of square brackets in an appendix. -/
theorem outline_append {a x : Text} (ha : IsAppendix a) (hx : Holds a x) {t : Text}
    (hn : ¬IsUnnamed t) : outline (read false (t ++ x)) = outlineWith (a.count '[') t := by
  obtain ⟨hnone, hsome⟩ := readStart?_append ha hx t
  cases hs : readStart? t with
  | none =>
    rw [hnone hs, outlineWith, hs]
  | some s =>
    obtain ⟨rest, hrest, hext⟩ := hsome s hs
    rw [outline_read, outlineWith, outlineWith, hrest, hs]
    dsimp only
    generalize hr : s.rest = r at hext ⊢
    cases hext with
    | used => exact absurd ⟨s, hs, hr⟩ hn
    | behind hne hx =>
      rw [readName?_append_of_apart hx.apart hne]
      cases readName? r with
      | none => rfl
      | some p => simp [List.count_append, hx.count, Nat.add_assoc]

/-- An argument without a name is named by its appendix. -/
theorem readStart?_append_of_unnamed {a x : Text} (ha : IsAppendix a) (hx : Holds a x) {t : Text}
    {s : Start} (hs : readStart? t = some s) (hr : s.rest = []) :
    readStart? (t ++ x) = some { s with rest := a } := by
  obtain ⟨rest, hrest, hext⟩ := (readStart?_append ha hx t).2 s hs
  rw [hr] at hext
  cases hext with
  | used => exact hrest
  | behind hne _ => exact absurd rfl hne

end Tokens

end HeaderBindings.Argument
