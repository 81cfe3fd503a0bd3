import HeaderBindings.Proofs.Constant.NumberTokens

/-!
# The text under the tokens

The tokens of a respelled text lie over what is seen of the text before it was respelled: each is
written with a part of it, and there are blanks between the parts.
-/
namespace HeaderBindings.Constant

open Text
open StringLiteral (isSourceBlank)

/-! ### Tokens over a text -/

/-- Tokens lie over a text in which they are written one after another with blanks around them. From
the first token on that no formula has, nothing is said of the text. -/
inductive LieOver : List Token → Text → Prop
  | nil : LieOver [] []
  | blank {ts : List Token} {t : Text} {c : Char} (hc : isSourceBlank c = true)
    (h : LieOver ts t) : LieOver ts (c :: t)
  | lineEnd {ts : List Token} {t : Text} (h : LieOver ts t) : LieOver (.lineEnd :: ts) t
  | token {ts : List Token} {t w : Text} {k : Token} (hw : Writes k w) (h : LieOver ts t) :
    LieOver (k :: ts) (w ++ t)
  | foreign {k : Token} (hk : k.isFormal = false) (ts : List Token) (t : Text) :
    LieOver (k :: ts) t

theorem LieOver.blanks_append {ts : List Token} {t b : Text} (h : LieOver ts t)
    (hb : ∀ c ∈ b, isSourceBlank c = true) : LieOver ts (b ++ t) := by
  induction b with
  | nil => exact h
  | cons c b ih =>
    obtain ⟨hc, hb⟩ := List.forall_mem_cons.mp hb
    exact .blank hc (ih hb)

/-! ### Tokens -/

theorem exists_of_readSymbol? {t rest : Text} {s : Symbol} (h : readSymbol? t = some (s, rest)) :
    ∃ p ∈ symbolTable, p.2 = s ∧ t = p.1.toList ++ rest := by
  obtain ⟨p, hp, hmap⟩ := List.exists_of_findSome?_eq_some h
  obtain ⟨r, hr, heq⟩ := Option.map_eq_some_iff.mp hmap
  obtain ⟨rfl, rfl⟩ := Prod.mk.inj heq
  exact ⟨p, hp, rfl, dropPrefix?_eq_some_iff.mp hr⟩

theorem isSeen_of_mem_symbolTable {p : String × Symbol} (hp : p ∈ symbolTable) :
    ∀ c ∈ p.1.toList, IsSeen c ∧ c ≠ 'o' := by
  have hall : ∀ p ∈ symbolTable, ∀ c ∈ p.1.toList,
      (isLineEnd c = false ∧ c ∉ hidingChars) ∧ c ≠ 'o' := by decide
  exact hall p hp

theorem exists_of_readToken? {t rest : Text} {k : Token} (hm : IsMarked t)
    (hk : k.isFormal = true) (h : readToken? t = some (k, rest)) :
    ∃ w, t = w ++ rest ∧ (∀ c ∈ w, IsSeen c) ∧ Writes k (unmark w) := by
  unfold readToken? at h
  split at h
  · cases h
  · next c r =>
    split_ifs at h with hat hword hquote
    · exact exists_of_readNumber? hm hat hk h
    · unfold readWord? at h
      dsimp only at h
      split_ifs at h
      · obtain ⟨p, -, heq⟩ := Option.map_eq_some_iff.mp h
        obtain ⟨rfl, -⟩ := Prod.mk.inj heq
        cases hk
      · cases h
        cases hk
    · obtain ⟨p, -, heq⟩ := Option.map_eq_some_iff.mp h
      obtain ⟨rfl, -⟩ := Prod.mk.inj heq
      cases hk
    · obtain ⟨⟨s, r'⟩, hs, heq⟩ := Option.map_eq_some_iff.mp h
      obtain ⟨rfl, rfl⟩ := Prod.mk.inj heq
      obtain ⟨p, hp, rfl, ht⟩ := exists_of_readSymbol? hs
      have hseen := isSeen_of_mem_symbolTable hp
      refine ⟨p.1.toList, ht, fun c hc => (hseen c hc).1, ?_⟩
      rw [unmark_eq_self fun ho => (hseen 'o' ho).2 rfl]
      exact .symbol hp

/-! ### Line ends and comments -/

/-- A line end becomes a line feed together with one after it, and other characters stay. -/
theorem unifyLineEnds_cons (c : Char) (r : Text) :
    isLineEnd c = false ∧ unifyLineEnds (c :: r) = c :: unifyLineEnds r ∨
      isLineEnd c = true ∧ ∃ u s, r = u ++ s ∧ (∀ e ∈ u, isLineEnd e = true) ∧
        unifyLineEnds (c :: r) = '\n' :: unifyLineEnds s := by
  by_cases hn : c = '\n'
  · subst hn
    exact .inr ⟨rfl, [], r, rfl, List.forall_mem_nil _, by simp [unifyLineEnds]⟩
  by_cases hr : c = '\r'
  · subst hr
    by_cases hnext : ∃ s, r = '\n' :: s
    · obtain ⟨s, rfl⟩ := hnext
      exact .inr ⟨rfl, ['\n'], s, rfl, by decide, rfl⟩
    · refine .inr ⟨rfl, [], r, rfl, List.forall_mem_nil _, ?_⟩
      rw [unifyLineEnds.eq_3 _ _ (fun s _ hs => hnext ⟨s, hs⟩)]
      rfl
  · refine .inl ⟨by simp [isLineEnd, hn, hr], ?_⟩
    simp [unifyLineEnds, hr]

theorem mem_unifyLineEnds {c : Char} {t : Text} (h : c ∈ unifyLineEnds t) :
    c ∈ t ∨ c = '\n' := by
  induction hn : t.length using Nat.strong_induction_on generalizing t with
  | h n ih =>
    cases t with
    | nil => cases h
    | cons d r =>
      subst hn
      rcases unifyLineEnds_cons d r with ⟨-, heq⟩ | ⟨-, u, s, rfl, -, heq⟩
      · rcases List.mem_cons.mp (heq ▸ h) with rfl | hc
        · exact .inl List.mem_cons_self
        · exact (ih r.length (Nat.lt_succ_self _) hc rfl).imp_left (List.mem_cons_of_mem _)
      · rcases List.mem_cons.mp (heq ▸ h) with rfl | hc
        · exact .inr rfl
        · have hlt : s.length < (d :: (u ++ s)).length := by
            simp only [List.length_cons, List.length_append]
            omega
          exact (ih s.length hlt hc rfl).imp_left fun hs => by simp [hs]

theorem IsMarked.unifyLineEnds {t : Text} (h : IsMarked t) : IsMarked (unifyLineEnds t) := by
  intro c hc hf
  rcases mem_unifyLineEnds hc with hm | rfl
  · exact h c hm hf
  · cases hf

theorem exists_of_unifyLineEnds_newline {t s : Text} (h : unifyLineEnds t = '\n' :: s) :
    ∃ u r, t = u ++ r ∧ (∀ e ∈ u, isLineEnd e = true) ∧ s = unifyLineEnds r := by
  cases t with
  | nil => cases h
  | cons c r =>
    rcases unifyLineEnds_cons c r with ⟨hc, heq⟩ | ⟨hc, u, s', rfl, hu, heq⟩
    · obtain ⟨rfl, -⟩ := List.cons.inj (heq.symm.trans h)
      cases hc
    · exact ⟨c :: u, s', rfl, List.forall_mem_cons.mpr ⟨hc, hu⟩,
        (List.cons.inj (h.symm.trans heq)).2⟩

/-- What is read of a line stands before its line end. -/
theorem exists_of_unifyLineEnds_append {w t s : Text} (hw : ∀ c ∈ w, IsSeen c)
    (h : unifyLineEnds t = w ++ s) : ∃ r, t = w ++ r ∧ s = unifyLineEnds r := by
  induction w generalizing t with
  | nil => exact ⟨t, rfl, h.symm⟩
  | cons c w ih =>
    obtain ⟨hc, hrest⟩ := List.forall_mem_cons.mp hw
    cases t with
    | nil => cases h
    | cons d r =>
      rcases unifyLineEnds_cons d r with ⟨-, heq⟩ | ⟨-, u, s', -, -, heq⟩
      · obtain ⟨rfl, hr⟩ := List.cons.inj (heq.symm.trans h)
        obtain ⟨r', rfl, hs⟩ := ih hrest hr
        exact ⟨r', rfl, hs⟩
      · obtain ⟨rfl, -⟩ := List.cons.inj (heq.symm.trans h)
        cases hc.1

theorem dropWhile_unifyLineEnds (t : Text) : (unifyLineEnds t).dropWhile (· ≠ '\n') =
    unifyLineEnds (t.dropWhile fun c => !isLineEnd c) := by
  induction t with
  | nil => rfl
  | cons c r ih =>
    rcases unifyLineEnds_cons c r with ⟨hc, heq⟩ | ⟨hc, u, s, -, -, heq⟩
    · have hn : c ≠ '\n' := by
        rintro rfl
        cases hc
      rw [heq, List.dropWhile_cons_of_pos (by simpa using hn),
        List.dropWhile_cons_of_pos (by simp [hc]), ih]
    · rw [heq, List.dropWhile_cons_of_neg (by simp), List.dropWhile_cons_of_neg (by simp [hc]), heq]

theorem visible_append {w : Text} (hw : ∀ c ∈ w, IsSeen c) (t : Text) :
    visible (w ++ t) = w ++ visible t := by
  induction w with
  | nil => rfl
  | cons c w ih =>
    obtain ⟨⟨hend, hc⟩, hw⟩ := List.forall_mem_cons.mp hw
    simp only [hidingChars, List.mem_cons, List.not_mem_nil, or_false, not_or] at hc
    have hcons : visible (c :: (w ++ t)) = c :: visible (w ++ t) := by
      simp [visible, visibleFrom, hend, hc]
    rw [List.cons_append, hcons, ih hw]
    rfl

theorem visible_lineEnds_append {u : Text} (hu : ∀ c ∈ u, isLineEnd c = true) (t : Text) :
    visible (u ++ t) = u ++ visible t := by
  induction u with
  | nil => rfl
  | cons c u ih =>
    obtain ⟨hc, hu⟩ := List.forall_mem_cons.mp hu
    have hcons : visible (c :: (u ++ t)) = c :: visible (u ++ t) := by
      simp [visible, visibleFrom, hc]
    rw [List.cons_append, hcons, ih hu]
    rfl

theorem visible_comment (t : Text) :
    visible ('#' :: t) = visible (t.dropWhile fun c => !isLineEnd c) := by
  have hcomment : ∀ t, visibleFrom true t = visible (t.dropWhile fun c => !isLineEnd c) := by
    intro t
    induction t with
    | nil => rfl
    | cons c r ih =>
      cases hc : isLineEnd c with
      | true => simp [visible, visibleFrom, hc]
      | false => simp [visibleFrom, hc, ih]
  rw [← hcomment]
  rfl

theorem visibleFrom_unmark (comment : Bool) (t : Text) :
    visibleFrom comment (unmark t) = unmark (visibleFrom comment t) := by
  induction t generalizing comment with
  | nil => rfl
  | cons c r ih =>
    by_cases ho : c = 'o'
    · subst ho
      cases comment with
      | true => exact ih true
      | false => exact ih false
    · rw [unmark_cons ho, visibleFrom, visibleFrom]
      split_ifs
      · rw [unmark_cons ho, ih]
      · exact ih true
      · exact ih false
      · rw [unmark_cons ho, ih]

/-! ### Texts -/

theorem indentation_eq (column : ℕ) (t : Text) :
    indentation column t = [] ∨ indentation column t = [.indent] := by
  fun_induction indentation column t with
  | case1 column r ih => exact ih
  | case2 column r ih => exact ih
  | case3 column r ih => exact ih
  | case4 column r ih => exact ih
  | case5 => exact .inl rfl
  | case6 => exact .inl rfl
  | case7 => exact .inr rfl

theorem LieOver.indentation_append {ts : List Token} {t : Text} (h : LieOver ts t) (column : ℕ)
    (s : Text) : LieOver (indentation column s ++ ts) t := by
  rcases indentation_eq column s with hs | hs
  · rwa [hs]
  · rw [hs]
    exact .foreign rfl ts t

theorem isSourceBlank_of_isLineEnd {c : Char} (h : isLineEnd c = true) :
    isSourceBlank c = true := by
  simp only [isLineEnd, isSourceBlank, Bool.or_eq_true, decide_eq_true_eq] at h ⊢
  tauto

/-- With so much fuel, tokens lie over what is seen of their text. -/
def Scans (fuel : ℕ) : Prop :=
  ∀ depth empty, ∀ t : Text, IsMarked t →
    LieOver (tokensFrom fuel depth empty (unifyLineEnds t)) (unmark (visible t))

section Scans
variable {fuel : ℕ} (hs : Scans fuel) {depth : ℕ} {empty : Bool}
include hs

/-- A line end counts outside of brackets only, and what follows it may be indented. -/
theorem Scans.lineEnds {c : Char} {u t : Text} (hu : ∀ e ∈ c :: u, isLineEnd e = true)
    (hm : IsMarked t) : LieOver (tokensFrom (fuel + 1) depth empty ('\n' :: unifyLineEnds t))
      (unmark (visible (c :: (u ++ t)))) := by
  have hb : ∀ e ∈ c :: u, isSourceBlank e = true := fun e he => isSourceBlank_of_isLineEnd (hu e he)
  have ho : 'o' ∉ c :: u := fun ho => absurd (hu _ ho) (by decide)
  rw [← List.cons_append, visible_lineEnds_append hu, unmark_append, unmark_eq_self ho]
  have hnext : ∀ depth empty, LieOver (tokensFrom fuel depth empty (unifyLineEnds t))
      (c :: u ++ unmark (visible t)) :=
    fun depth empty => (hs depth empty t hm).blanks_append hb
  by_cases hd : depth = 0
  · subst hd
    have hindented := (hnext 0 true).indentation_append 0 (unifyLineEnds t)
    cases empty with
    | true => simpa [tokensFrom] using hindented
    | false => simpa [tokensFrom] using hindented.lineEnd
  · simpa [tokensFrom, hd] using hnext depth empty

theorem Scans.blank {c : Char} {t : Text} (hc : c = ' ' ∨ c = '\t' ∨ c = '\x0c')
    (hm : IsMarked t) : LieOver (tokensFrom (fuel + 1) depth empty (c :: unifyLineEnds t))
      (unmark (visible (c :: t))) := by
  have hstep : tokensFrom (fuel + 1) depth empty (c :: unifyLineEnds t) =
      tokensFrom fuel depth empty (unifyLineEnds t) := by
    rcases hc with rfl | rfl | rfl <;> rfl
  have hall : (isLineEnd c = false ∧ c ∉ hidingChars) ∧ isSourceBlank c = true ∧ c ≠ 'o' := by
    rcases hc with rfl | rfl | rfl <;> decide
  obtain ⟨hseen, hb, ho⟩ := hall
  rw [hstep, ← List.singleton_append, visible_append (List.forall_mem_singleton.mpr hseen),
    List.singleton_append, unmark_cons ho]
  exact .blank hb (hs depth empty t hm)

/-- A comment goes on to the end of its line. -/
theorem Scans.comment {t : Text} (hm : IsMarked t) :
    LieOver (tokensFrom (fuel + 1) depth empty ('#' :: unifyLineEnds t))
      (unmark (visible ('#' :: t))) := by
  have hstep : tokensFrom (fuel + 1) depth empty ('#' :: unifyLineEnds t) =
      tokensFrom fuel depth empty ((unifyLineEnds t).dropWhile (· ≠ '\n')) := rfl
  rw [hstep, dropWhile_unifyLineEnds, visible_comment]
  exact hs depth empty _ fun c hc => hm c ((List.dropWhile_suffix _).subset hc)

/-- A backslash joins its line to the next one. -/
theorem Scans.joined {t : Text} (hm : IsMarked t) :
    LieOver (tokensFrom (fuel + 1) depth empty ('\\' :: unifyLineEnds t))
      (unmark (visible ('\\' :: t))) := by
  have hvisible : visible ('\\' :: t) = visible t := rfl
  unfold tokensFrom
  rw [hvisible, if_neg (by decide), if_neg (by decide), if_neg (by decide), if_pos rfl]
  split
  · next d s hds =>
    obtain ⟨u, r, rfl, hu, hr⟩ := exists_of_unifyLineEnds_newline hds
    have ho : 'o' ∉ u := fun ho => absurd (hu _ ho) (by decide)
    rw [hr, visible_lineEnds_append hu, unmark_append, unmark_eq_self ho]
    refine (hs depth empty r fun c hc => hm c (List.mem_append_right _ hc)).blanks_append ?_
    exact fun e he => isSourceBlank_of_isLineEnd (hu e he)
  · exact .foreign rfl _ _

/-- A token is written with a text that is seen from end to end. -/
theorem Scans.token {c : Char} {t : Text} (hc : c ∉ idleChars) (hm : IsMarked (c :: t))
    (ht : unifyLineEnds (c :: t) = c :: unifyLineEnds t) :
    LieOver (tokensFrom (fuel + 1) depth empty (c :: unifyLineEnds t))
      (unmark (visible (c :: t))) := by
  have hunreadable : tokensFrom (fuel + 1) depth empty (c :: unifyLineEnds t) = [.unreadable] →
      LieOver (tokensFrom (fuel + 1) depth empty (c :: unifyLineEnds t))
        (unmark (visible (c :: t))) := by
    intro h
    rw [h]
    exact .foreign rfl _ _
  have hidle := hc
  simp only [idleChars, List.mem_cons, List.not_mem_nil, or_false, not_or] at hidle
  cases hr : readToken? (c :: unifyLineEnds t) with
  | none => exact hunreadable (by simp [tokensFrom, hidle, hr])
  | some p =>
    obtain ⟨k, rest⟩ := p
    cases hb : bracketsAfter? depth k with
    | none => exact hunreadable (by simp [tokensFrom, hidle, hr, hb])
    | some after =>
      rw [tokensFrom_cons hc hr hb]
      cases hk : k.isFormal with
      | false => exact .foreign hk _ _
      | true =>
        have hmark := hm.unifyLineEnds
        rw [ht] at hmark
        obtain ⟨w, hw, hseen, hwrites⟩ := exists_of_readToken? hmark hk hr
        obtain ⟨r, hcr, rfl⟩ := exists_of_unifyLineEnds_append hseen (ht.trans hw)
        rw [hcr, visible_append hseen, unmark_append]
        refine .token hwrites (hs after false r fun d hd => hm d ?_)
        rw [hcr]
        exact List.mem_append_right _ hd

end Scans

/-- Tokens lie over what is seen of their text. -/
theorem scans (fuel : ℕ) : Scans fuel := by
  induction fuel with
  | zero => exact fun _ _ _ _ => .foreign rfl _ _
  | succ fuel ih =>
    intro depth empty t hm
    cases t with
    | nil => exact .nil
    | cons c r =>
      have hr : IsMarked r := fun d hd => hm d (List.mem_cons_of_mem _ hd)
      rcases unifyLineEnds_cons c r with ⟨hc, heq⟩ | ⟨hc, u, s, rfl, hu, heq⟩
      · rw [heq]
        by_cases hidle : c ∈ idleChars
        · have hcases : (c = ' ' ∨ c = '\t' ∨ c = '\x0c') ∨ c = '\n' ∨ c = '#' ∨ c = '\\' := by
            simpa [idleChars, or_assoc] using hidle
          rcases hcases with hblank | rfl | rfl | rfl
          · exact ih.blank hblank hr
          · cases hc
          · exact ih.comment hr
          · exact ih.joined hr
        · exact ih.token hidle hm heq
      · rw [heq]
        exact ih.lineEnds (List.forall_mem_cons.mpr ⟨hc, hu⟩)
          fun d hd => hr d (List.mem_append_right _ hd)

/-! ### Respelled texts -/

theorem mem_respellFrom {free : Bool} {t : Text} {c : Char} (h : c ∈ respellFrom free t) :
    c ∈ t ∨ c = 'o' := by
  induction t generalizing free with
  | nil => cases h
  | cons d r ih =>
    rw [respellFrom] at h
    split_ifs at h with hd
    · simp only [Bool.and_eq_true, decide_eq_true_eq] at hd
      rcases List.mem_cons.mp h with rfl | h
      · exact .inl (by simp [hd])
      rcases List.mem_cons.mp h with rfl | h
      · exact .inr rfl
      · exact (ih h).imp_left (List.mem_cons_of_mem _)
    · rcases List.mem_cons.mp h with rfl | h
      · exact .inl List.mem_cons_self
      · exact (ih h).imp_left (List.mem_cons_of_mem _)

/-- Respelling only adds marks. -/
theorem unmark_respellFrom (free : Bool) {t : Text} (ho : 'o' ∉ t) :
    unmark (respellFrom free t) = t := by
  induction t generalizing free with
  | nil => rfl
  | cons c r ih =>
    have hc : c ≠ 'o' := (List.ne_of_not_mem_cons ho).symm
    have hr : 'o' ∉ r := List.not_mem_of_not_mem_cons ho
    rw [respellFrom]
    split_ifs with hd
    · simp only [Bool.and_eq_true, decide_eq_true_eq] at hd
      obtain rfl : c = '0' := hd.1.1.2
      have hmark : unmark ('0' :: 'o' :: respellFrom false r) =
          '0' :: unmark (respellFrom false r) := rfl
      rw [hmark, ih false hr]
    · rw [unmark_cons hc, ih _ hr]

/-- The tokens of a text with its octal numerals respelled lie over what is seen of the text. -/
theorem lieOver_tokens {t : Text} (hf : ∀ c ∈ t, isForeignLetter c = false) :
    LieOver (tokens (respellOctals t)) (visible t) := by
  have ho : 'o' ∉ t := fun ho => absurd (hf _ ho) (by decide)
  have hm : IsMarked (respellOctals t) := by
    intro c hc hforeign
    refine (mem_respellFrom hc).resolve_left fun hmem => ?_
    rw [hf c hmem] at hforeign
    cases hforeign
  have hvisible : unmark (visible (respellOctals t)) = visible t := by
    rw [visible, ← visibleFrom_unmark, respellOctals, unmark_respellFrom true ho]
    rfl
  have hall := scans ((unifyLineEnds (respellOctals t)).length + 1) 0 true _ hm
  rw [hvisible] at hall
  exact hall.indentation_append 0 _

end HeaderBindings.Constant
