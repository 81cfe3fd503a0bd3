import HeaderBindings.Proofs.Header.Comments
import Mathlib.Data.List.Forall2

/-!
# Texts without comments

Blanking comments out moves no character. What is left holds no comment: blanking a line comment
opens and closes no block comment, since it only takes characters away, and no two slashes come
together when block comments are blanked out, since blanks stand between them. A text without
comments stays as it is, so blanking a second time changes nothing.
-/
namespace HeaderBindings.Header

/-- A text holds no line comment, and no block comment that is closed. -/
structure HasNoComment (t : Text) : Prop where
  line : ¬['/', '/'] <:+: t
  block : ∀ a b, t = a ++ '/' :: '*' :: b → ¬['*', '/'] <:+: b

theorem hasNoComment_iff {t : Text} :
    HasNoComment t ↔ ¬['/', '/'] <:+: t ∧ ∀ s, s <:+ t → atBlock s = false := by
  constructor
  · intro h
    refine ⟨h.line, fun s hs => Bool.eq_false_iff.mpr fun hb => ?_⟩
    obtain ⟨a, rfl⟩ := hs
    obtain ⟨body, rest, rfl, hsplit⟩ := atBlock_iff.mp hb
    refine h.block a (body ++ rest) rfl ((isSome_splitAtClose?_iff _).mp ?_)
    rw [hsplit]
    rfl
  · rintro ⟨hline, hblock⟩
    refine ⟨hline, ?_⟩
    rintro a b rfl hclose
    have hb : atBlock ('/' :: '*' :: b) = true := decide_eq_true hclose
    rw [hblock _ ⟨a, rfl⟩] at hb
    cases hb

/-! ### Texts that stay as they are -/

theorem blankBlockComments_eq_self {t : Text} (h : ∀ s, s <:+ t → atBlock s = false) :
    blankBlockComments t = t := by
  induction t with
  | nil => simp [blankBlockComments]
  | cons c r ih =>
    have hr : ∀ s, s <:+ r → atBlock s = false := fun s hs => h s (hs.trans (List.suffix_cons c r))
    rw [blankBlockComments_cons (h _ List.suffix_rfl), ih hr]

theorem blankLineComments_eq_self {t : Text} (h : ¬['/', '/'] <:+: t) :
    blankLineComments false t = t := by
  induction t with
  | nil => rfl
  | cons c r ih =>
    have hr : ¬['/', '/'] <:+: r := fun hi => h (hi.trans (List.suffix_cons c r).isInfix)
    have hc : ¬(c = '/' ∧ r.head? = some '/') := by
      rintro ⟨rfl, hd⟩
      obtain ⟨s, rfl⟩ := List.head?_eq_some_iff.mp hd
      exact h ⟨[], s, rfl⟩
    rw [blankLineComments, if_neg hc, ih hr]

theorem HasNoComment.stripComments_eq {t : Text} (h : HasNoComment t) : stripComments t = t := by
  obtain ⟨hline, hblock⟩ := hasNoComment_iff.mp h
  rw [stripComments, blankBlockComments_eq_self hblock, blankLineComments_eq_self hline]

/-- A text in which no comment opens stays as it is. -/
theorem stripComments_eq_self {t : Text} (hl : ¬['/', '/'] <:+: t) (hb : ¬['/', '*'] <:+: t) :
    stripComments t = t := by
  refine HasNoComment.stripComments_eq ⟨hl, ?_⟩
  rintro a b rfl -
  exact hb ⟨a, b, by simp⟩

/-! ### Places -/

/-- Every character stays or, unless it is a line feed, gives way to a space. -/
def Blanked (t u : Text) : Prop := List.Forall₂ (fun c d => d = c ∨ c ≠ '\n' ∧ d = ' ') t u

theorem blanked_blankOut (c : Char) : blankOut c = c ∨ c ≠ '\n' ∧ blankOut c = ' ' := by
  unfold blankOut
  split_ifs with h
  · exact .inl h.symm
  · exact .inr ⟨h, rfl⟩

theorem blanked_map_blankOut (t : Text) : Blanked t (t.map blankOut) := by
  induction t with
  | nil => exact .nil
  | cons c t ih => exact .cons (blanked_blankOut c) ih

theorem blanked_blankBlockComments (t : Text) : Blanked t (blankBlockComments t) := by
  induction hn : t.length using Nat.strongRecOn generalizing t with
  | ind n ih =>
    cases hb : atBlock t with
    | true =>
      obtain ⟨body, rest, rfl, hs⟩ := atBlock_iff.mp hb
      have hrest : Blanked rest (blankBlockComments rest) := ih _ (by simp at hn; omega) rest rfl
      rw [blankBlockComments_block hs]
      refine .cons (.inr ⟨by decide, rfl⟩) (.cons (.inr ⟨by decide, rfl⟩) ?_)
      exact List.rel_append (blanked_map_blankOut body) hrest
    | false =>
      cases t with
      | nil =>
        rw [blankBlockComments]
        exact .nil
      | cons c r =>
        rw [blankBlockComments_cons hb]
        exact .cons (.inl rfl) (ih _ (by simp at hn; omega) r rfl)

theorem blanked_blankLineComments (inLine : Bool) (t : Text) :
    Blanked t (blankLineComments inLine t) := by
  induction t generalizing inLine with
  | nil => exact .nil
  | cons c r ih =>
    cases inLine with
    | true => exact .cons (blanked_blankOut c) (ih _)
    | false =>
      rw [blankLineComments]
      split_ifs with hc
      · exact .cons (.inr ⟨by rw [hc.1]; decide, rfl⟩) (ih _)
      · exact .cons (.inl rfl) (ih _)

theorem Blanked.trans {t u v : Text} (hu : Blanked t u) (hv : Blanked u v) : Blanked t v := by
  induction hu generalizing v with
  | nil => exact hv
  | cons hd _ ih =>
    cases hv with
    | cons he hv =>
      refine .cons ?_ (ih hv)
      rcases hd with rfl | ⟨hc, rfl⟩
      · exact he
      · exact .inr ⟨hc, he.elim id And.right⟩

theorem blanked_stripComments (t : Text) : Blanked t (stripComments t) :=
  (blanked_blankBlockComments t).trans (blanked_blankLineComments false _)

/-! ### What is left -/

section Blanked
variable {t u : Text} (h : Blanked t u)
include h

theorem Blanked.getElem? (i : ℕ) {c : Char} (hc : t[i]? = some c) :
    u[i]? = some c ∨ c ≠ '\n' ∧ u[i]? = some ' ' := by
  induction h generalizing i with
  | nil => cases hc
  | cons hd _ ih =>
    cases i with
    | zero =>
      obtain rfl := Option.some.inj hc
      exact hd.imp (congrArg some) (And.imp_right (congrArg some))
    | succ i => exact ih i hc

/-- What is left and is no space stood there before. -/
theorem Blanked.eq_cons {d : Char} {s : Text} (hu : u = d :: s) (hd : d ≠ ' ') :
    ∃ r, t = d :: r ∧ Blanked r s := by
  subst hu
  cases h with
  | cons hc hs => exact ⟨_, by rw [hc.resolve_right fun hn => hd hn.2], hs⟩

theorem Blanked.exists_suffix {s : Text} (hs : s <:+ u) : ∃ r, r <:+ t ∧ Blanked r s := by
  obtain ⟨a, rfl⟩ := hs
  exact ⟨_, List.drop_suffix _ _, List.forall₂_drop_append _ _ _ h⟩

theorem Blanked.close_infix (hu : ['*', '/'] <:+: u) : ['*', '/'] <:+: t := by
  obtain ⟨a, b, hab⟩ := hu
  obtain ⟨r, hr, hb⟩ := h.exists_suffix (s := '*' :: '/' :: b) ⟨a, by simpa using hab⟩
  obtain ⟨r₁, rfl, hb₁⟩ := hb.eq_cons rfl (by decide)
  obtain ⟨r₂, rfl, -⟩ := hb₁.eq_cons rfl (by decide)
  exact List.IsInfix.trans ⟨[], r₂, rfl⟩ hr.isInfix

theorem Blanked.atBlock (hu : atBlock u = true) : atBlock t = true := by
  obtain ⟨body, rest, rfl, hs⟩ := atBlock_iff.mp hu
  obtain ⟨r₁, rfl, hb₁⟩ := h.eq_cons rfl (by decide)
  obtain ⟨r₂, rfl, hb₂⟩ := hb₁.eq_cons rfl (by decide)
  have hclose : ['*', '/'] <:+: body ++ rest :=
    (isSome_splitAtClose?_iff _).mp (Option.isSome_iff_exists.mpr ⟨_, hs⟩)
  exact decide_eq_true (hb₂.close_infix hclose)

end Blanked

theorem blankOut_ne_slash (c : Char) : blankOut c ≠ '/' := by
  rcases blankOut_blank c with h | h <;> rw [h] <;> decide

theorem not_slashes_infix_blankLineComments (inLine : Bool) (t : Text) :
    ¬['/', '/'] <:+: blankLineComments inLine t := by
  induction t generalizing inLine with
  | nil => simp [blankLineComments]
  | cons c r ih =>
    have hhead : ∀ (d : Char) (inLine : Bool), (d = '/' → inLine = false ∧ r.head? ≠ some '/') →
        ¬['/', '/'] <:+: d :: blankLineComments inLine r := by
      intro d inLine hd hi
      refine (List.infix_cons_iff.mp hi).elim (fun hp => ?_) (ih inLine)
      obtain ⟨rfl, b, hb⟩ := List.cons_prefix_cons.mp hp
      obtain ⟨s, rfl, -⟩ := (blanked_blankLineComments inLine r).eq_cons hb.symm (by decide)
      exact (hd rfl).2 rfl
    cases inLine with
    | true => exact hhead _ _ fun hc => absurd hc (blankOut_ne_slash c)
    | false =>
      rw [blankLineComments]
      split_ifs with hc
      · exact hhead _ _ fun hs => absurd hs (by decide)
      · exact hhead _ _ fun hs => ⟨rfl, fun hr => hc ⟨hs, hr⟩⟩

theorem atBlock_of_suffix_append {u v : Text} (hu : ∀ c ∈ u, c ≠ '/')
    (hv : ∀ s, s <:+ v → atBlock s = false) : ∀ s, s <:+ u ++ v → atBlock s = false := by
  induction u with
  | nil => exact hv
  | cons c u ih =>
    obtain ⟨hc, hu⟩ := List.forall_mem_cons.mp hu
    intro s hs
    rcases List.suffix_cons_iff.mp hs with rfl | hs
    · refine Bool.eq_false_iff.mpr fun hb => hc ?_
      obtain ⟨_, _, heq, -⟩ := atBlock_iff.mp hb
      exact (List.cons.inj heq).1
    · exact ih hu s hs

/-- No block comment is left when block comments are blanked out: a mark that is left was passed
over because nothing closes it, and nothing closes it now. -/
theorem atBlock_blankBlockComments (t : Text) :
    ∀ s, s <:+ blankBlockComments t → atBlock s = false := by
  induction hn : t.length using Nat.strongRecOn generalizing t with
  | ind n ih =>
    cases hb : atBlock t with
    | true =>
      obtain ⟨body, rest, rfl, hs⟩ := atBlock_iff.mp hb
      have hblank : ∀ c ∈ ' ' :: ' ' :: body.map blankOut, c ≠ '/' := by
        simpa using fun c _ => blankOut_ne_slash c
      rw [blankBlockComments_block hs]
      exact atBlock_of_suffix_append hblank (ih _ (by simp at hn; omega) rest rfl)
    | false =>
      cases t with
      | nil => simp [blankBlockComments, Header.atBlock]
      | cons c r =>
        intro s hsuffix
        rw [blankBlockComments_cons hb] at hsuffix
        rcases List.suffix_cons_iff.mp hsuffix with rfl | h
        · have hall : Blanked (c :: r) (c :: blankBlockComments r) :=
            .cons (.inl rfl) (blanked_blankBlockComments r)
          exact Bool.eq_false_iff.mpr fun h => Bool.eq_false_iff.mp hb (hall.atBlock h)
        · exact ih _ (by simp at hn; omega) r rfl s h

theorem hasNoComment_stripComments (t : Text) : HasNoComment (stripComments t) := by
  refine hasNoComment_iff.mpr ⟨not_slashes_infix_blankLineComments _ _, fun s hs => ?_⟩
  obtain ⟨r, hr, hb⟩ := (blanked_blankLineComments false (blankBlockComments t)).exists_suffix hs
  exact Bool.eq_false_iff.mpr fun h =>
    Bool.eq_false_iff.mp (atBlock_blankBlockComments t r hr) (hb.atBlock h)

/-- Comments are blanked out in place and completely, and nothing else is: a text stays as it is
exactly if it holds none. -/
theorem stripComments_complete (t : Text) :
    (stripComments t).length = t.length ∧
    (∀ (i : ℕ) (c : Char), t[i]? = some c →
      (stripComments t)[i]? = some c ∨ c ≠ '\n' ∧ (stripComments t)[i]? = some ' ') ∧
    HasNoComment (stripComments t) ∧
    stripComments (stripComments t) = stripComments t ∧
    (stripComments t = t ↔ HasNoComment t) := by
  have hplaces := blanked_stripComments t
  have hnone := hasNoComment_stripComments t
  refine ⟨hplaces.length_eq.symm, fun i c hc => hplaces.getElem? i hc, hnone,
    hnone.stripComments_eq, fun h => ?_, HasNoComment.stripComments_eq⟩
  rwa [h] at hnone

end HeaderBindings.Header
