import HeaderBindings.Proofs.Argument.Splitting

/-!
# Nesting in argument lists

Round and square brackets are counted together, so an argument list is accepted exactly if its
brackets are nested when any closing bracket closes any opening one. It is nested properly exactly
if, besides, no bracket is closed by one of the other kind. Then the brackets of each kind are
balanced for themselves and no comma inside a group separates arguments; otherwise one may.
-/
namespace HeaderBindings.Argument

open Text

/-- A bracket may be closed by this one. -/
abbrev Fitting := Char → Char → Prop

/-- Any closing bracket closes any opening one. -/
def Fitting.any : Fitting := fun _ _ => True

/-- A bracket is closed by one of its own kind. -/
def Fitting.sameKind : Fitting := fun o c => o = '(' ∧ c = ')' ∨ o = '[' ∧ c = ']'

/-- Texts whose brackets are nested, with a fitting bracket at the end of each group. -/
inductive Nests (fits : Fitting) : Text → Prop
  | nil : Nests fits []
  | other {c : Char} {t : Text} (opens : isOpener c = false) (closes : isCloser c = false)
      (rest : Nests fits t) : Nests fits (c :: t)
  | group {o c : Char} {u t : Text} (opens : isOpener o = true) (closes : isCloser c = true)
      (fit : fits o c) (inner : Nests fits u) (rest : Nests fits t) :
    Nests fits (o :: (u ++ c :: t))

/-- A text has these brackets, and what stands between them is balanced. -/
def Pairs (t : Text) (o c : Char) : Prop :=
  ∃ u v w, t = u ++ o :: (v ++ c :: w) ∧ isOpener o = true ∧ isCloser c = true ∧
    brackets.IsBalanced v

variable {fits : Fitting} {t : Text}

/-! ### Depths -/

theorem depth_opener {o : Char} (h : isOpener o = true) : brackets.depth [o] = 1 := by
  rw [depth_brackets, if_pos h]

theorem not_isOpener {c : Char} (h : isCloser c = true) : isOpener c = false := by
  simp only [isCloser, Bool.or_eq_true, decide_eq_true_eq] at h
  rcases h with rfl | rfl <;> rfl

theorem depth_closer {c : Char} (h : isCloser c = true) : brackets.depth [c] = -1 := by
  simp [depth_brackets, not_isOpener h, h]

theorem depth_other {c : Char} (ho : isOpener c = false) (hc : isCloser c = false) :
    brackets.depth [c] = 0 := by
  simp [depth_brackets, ho, hc]

/-- Nested texts are balanced for all brackets of which a group opens as many as it closes. -/
theorem Nests.isBalanced {b : Brackets} (h : Nests fits t)
    (hother : ∀ c, isOpener c = false → isCloser c = false → b.depth [c] = 0)
    (hgroup : ∀ o c, isOpener o = true → isCloser c = true → fits o c →
      0 ≤ b.depth [o] ∧ b.depth [o] + b.depth [c] = 0) : b.IsBalanced t := by
  induction h with
  | nil => exact Brackets.closes_nil.mpr rfl
  | other ho hc _ ih =>
    refine Brackets.closes_cons.mpr ⟨le_rfl, ?_⟩
    rw [hother _ ho hc]
    exact ih
  | @group o c u t ho hc hfit _ _ hu ht =>
    obtain ⟨hnonneg, hsum⟩ := hgroup o c ho hc hfit
    have hrest : b.Closes (b.depth [o]) (c :: t) :=
      Brackets.closes_cons.mpr ⟨hnonneg, hsum.symm ▸ ht⟩
    refine Brackets.closes_cons.mpr ⟨le_rfl, ?_⟩
    rw [zero_add]
    simpa using hu.append hrest

theorem Nests.isBalanced_brackets (h : Nests fits t) : brackets.IsBalanced t := by
  refine h.isBalanced (fun c => depth_other) fun o c ho hc _ => ?_
  rw [depth_opener ho, depth_closer hc]
  exact ⟨by decide, by decide⟩

/-! ### Pairs -/

theorem Pairs.append (u w : Text) {o c : Char} (h : Pairs t o c) : Pairs (u ++ t ++ w) o c := by
  obtain ⟨u', v, w', rfl, ho, hc, hv⟩ := h
  exact ⟨u ++ u', v, w' ++ w, by simp, ho, hc, hv⟩

theorem Pairs.of_cons {d o c : Char} (hd : isOpener d = false) (h : Pairs (d :: t) o c) :
    Pairs t o c := by
  obtain ⟨u, v, w, he, ho, hc, hv⟩ := h
  cases u with
  | nil =>
    obtain ⟨rfl, -⟩ := List.cons.inj he
    rw [hd] at ho
    cases ho
  | cons e u =>
    obtain ⟨-, rfl⟩ := List.cons.inj he
    exact ⟨u, v, w, rfl, ho, hc, hv⟩

/-- No group begins inside a balanced text and ends behind it. -/
theorem not_isBalanced_of_straddle {u v x : Text} {o : Char} (ho : isOpener o = true)
    (hu : brackets.IsBalanced (u ++ o :: v)) (hv : brackets.IsBalanced (v ++ x)) : False := by
  have hbefore := hu.nonneg u (List.prefix_append u _)
  have hinside := hv.nonneg v (List.prefix_append v x)
  have htotal := hu.total
  rw [Brackets.depth_append, Brackets.depth_cons, depth_opener ho] at htotal
  omega

/-- The pairs of a group and what follows it: its own brackets, and the pairs of both parts. -/
theorem Pairs.of_group {o c o' c' : Char} {u : Text} (hc : isCloser c = true)
    (hu : brackets.IsBalanced u) (h : Pairs (o :: (u ++ c :: t)) o' c') :
    o' = o ∧ c' = c ∨ Pairs u o' c' ∨ Pairs t o' c' := by
  obtain ⟨x, v, w, he, ho', hc', hv⟩ := h
  have hne : o' ≠ c := by
    rintro rfl
    rw [not_isOpener hc] at ho'
    cases ho'
  cases x with
  | nil =>
    obtain ⟨rfl, hinner⟩ := List.cons.inj he
    obtain ⟨-, rfl, -⟩ := hu.eq_of_append hv (depth_closer hc) (depth_closer hc') hinner
    exact .inl ⟨rfl, rfl⟩
  | cons d x =>
    have hinner := (List.cons.inj he).2
    -- the pair opens behind the group or inside it
    obtain ⟨a, rfl, ha⟩ | ⟨a, rfl, ha⟩ := List.append_eq_append_iff.mp hinner
    · cases a with
      | nil => exact absurd (List.cons.inj ha).1.symm hne
      | cons e a =>
        obtain ⟨rfl, rfl⟩ := List.cons.inj ha
        exact .inr (.inr ⟨a, v, w, rfl, ho', hc', hv⟩)
    · cases a with
      | nil => exact absurd (List.cons.inj ha).1 hne
      | cons e a =>
        obtain ⟨rfl, hclose⟩ := List.cons.inj ha
        -- and then it closes inside too
        obtain ⟨b, rfl, hb⟩ | ⟨b, rfl, hb⟩ := List.append_eq_append_iff.mp hclose
        · cases b with
          | nil =>
            rw [List.append_nil] at hu
            rw [← List.append_nil v] at hv
            exact (not_isBalanced_of_straddle ho' hu hv).elim
          | cons e b =>
            obtain ⟨rfl, rfl⟩ := List.cons.inj hb
            exact .inr (.inl ⟨x, v, b, rfl, ho', hc', hv⟩)
        · exact (not_isBalanced_of_straddle ho' hu hv).elim

theorem Nests.fits_of_pairs (h : Nests fits t) {o c : Char} (hp : Pairs t o c) : fits o c := by
  induction h with
  | nil =>
    obtain ⟨u, v, w, he, -⟩ := hp
    simp at he
  | other ho _ _ ih => exact ih (hp.of_cons ho)
  | group _ hc hfit hinner _ ihu iht =>
    rcases hp.of_group hc hinner.isBalanced_brackets with ⟨rfl, rfl⟩ | hu | ht
    · exact hfit
    · exact ihu hu
    · exact iht ht

/-- The brackets of a balanced text are nested if they fit where they meet. -/
theorem nests_of_isBalanced (hb : brackets.IsBalanced t) (hp : ∀ o c, Pairs t o c → fits o c) :
    Nests fits t := by
  induction hn : t.length using Nat.strongRecOn generalizing t with
  | ind n ih =>
    subst hn
    cases t with
    | nil => exact .nil
    | cons d r =>
      obtain ⟨-, hr⟩ := Brackets.closes_cons.mp hb
      rw [zero_add, depth_brackets] at hr
      split_ifs at hr with ho hc
      · obtain ⟨v, c, w, rfl, hv, hc, hw⟩ :=
          Brackets.Closes.exists_closing (k := 0) le_rfl (by simpa using hr)
        have hcloser : isCloser c = true := by
          rw [depth_brackets] at hc
          split_ifs at hc with _ h
          exact h
        have hlength : (d :: (v ++ c :: w)).length = v.length + w.length + 2 := by
          rw [List.length_cons, List.length_append, List.length_cons]
          omega
        refine .group ho hcloser (hp d c ⟨[], v, w, rfl, ho, hcloser, hv⟩) ?_ ?_
        · refine ih _ (by omega) hv (fun o' c' h => hp o' c' ?_) rfl
          simpa using h.append [d] (c :: w)
        · refine ih _ (by omega) hw (fun o' c' h => hp o' c' ?_) rfl
          simpa using h.append (d :: (v ++ [c])) []
      · exact absurd hr.zero_le (by decide)
      · refine .other (by simpa using ho) (by simpa using hc) ?_
        refine ih _ (Nat.lt_succ_self _) hr (fun o' c' h => hp o' c' ?_) rfl
        simpa using h.append [d] []

theorem nests_iff : Nests fits t ↔ brackets.IsBalanced t ∧ ∀ o c, Pairs t o c → fits o c :=
  ⟨fun h => ⟨h.isBalanced_brackets, fun _ _ => h.fits_of_pairs⟩,
    fun h => nests_of_isBalanced h.1 h.2⟩

/-! ### Kinds of brackets -/

/-- Square brackets alone. -/
def square : Brackets := ⟨(· = '['), (· = ']')⟩

theorem depth_square (c : Char) :
    square.depth [c] = if c = '[' then 1 else if c = ']' then -1 else 0 := by
  by_cases ho : c = '['
  · subst ho
    rfl
  · by_cases hc : c = ']'
    · subst hc
      rfl
    · simp [Brackets.depth, square, ho, hc]

/-- Where brackets are nested properly, both kinds are balanced for themselves. -/
theorem Nests.isBalanced_kinds (h : Nests .sameKind t) :
    Brackets.round.IsBalanced t ∧ square.IsBalanced t := by
  constructor
  · refine h.isBalanced (fun c ho hc => ?_) fun o c _ _ hfit => ?_
    · simp only [isOpener, isCloser, Bool.or_eq_false_iff, decide_eq_false_iff_not] at ho hc
      rw [depth_round, if_neg ho.1, if_neg hc.1]
    · rcases hfit with ⟨rfl, rfl⟩ | ⟨rfl, rfl⟩ <;> exact ⟨by decide, by decide⟩
  · refine h.isBalanced (fun c ho hc => ?_) fun o c _ _ hfit => ?_
    · simp only [isOpener, isCloser, Bool.or_eq_false_iff, decide_eq_false_iff_not] at ho hc
      rw [depth_square, if_neg ho.2, if_neg hc.2]
    · rcases hfit with ⟨rfl, rfl⟩ | ⟨rfl, rfl⟩ <;> exact ⟨by decide, by decide⟩

/-! ### Argument lists -/

theorem exists_split_iff : (∃ as, split t = .ok as) ↔ brackets.IsBalanced t := by
  constructor
  · rintro ⟨as, h⟩
    by_contra hn
    rw [split_eq_error_iff.mpr ⟨hn, rfl⟩] at h
    cases h
  · intro h
    obtain ⟨ps, hps, -⟩ := existsUnique_isCut h
    exact ⟨_, hps.split⟩

/-- A piece stands in the text that is cut. -/
theorem IsCut.exists_append {ps : List Text} (h : IsCut t ps) {p : Text} (hp : p ∈ ps) :
    ∃ u w, t = u ++ p ++ w := by
  obtain ⟨-, rfl, -⟩ := h
  cases ps with
  | nil => cases hp
  | cons q ps =>
    rw [join_cons]
    rcases List.mem_cons.mp hp with rfl | hp
    · exact ⟨[], _, rfl⟩
    · obtain ⟨before, after, rfl⟩ := List.append_of_mem hp
      exact ⟨q ++ before.flatMap ([','] ++ ·) ++ [','], after.flatMap ([','] ++ ·), by simp⟩

/-- Where the brackets of a list are nested, so are those of its pieces: no comma in a group
separates arguments. -/
theorem Nests.of_mem_cut (h : Nests fits t) {ps : List Text} (hps : IsCut t ps) {p : Text}
    (hp : p ∈ ps) : Nests fits p := by
  obtain ⟨u, w, rfl⟩ := hps.exists_append hp
  exact nests_of_isBalanced (hps.fragments p hp).closes
    fun o c hpair => h.fits_of_pairs (hpair.append u w)

/-- A list is accepted exactly if its brackets are nested with kinds not told apart. It is nested
properly exactly if it is accepted and no bracket in it is closed by one of the other kind. In that
case the brackets of each kind are balanced for themselves, and the pieces into which the list is
cut are nested properly as well. -/
theorem nests_sameKind_iff (t : Text) :
    ((∃ as, split t = .ok as) ↔ Nests .any t) ∧
    (Nests .sameKind t ↔
      (∃ as, split t = .ok as) ∧ ∀ o c, Pairs t o c → Fitting.sameKind o c) ∧
    (Nests .sameKind t → Brackets.round.IsBalanced t ∧ square.IsBalanced t ∧
      ∀ ps, IsCut t ps → ∀ p ∈ ps, Nests .sameKind p) := by
  rw [exists_split_iff, nests_iff, nests_iff]
  refine ⟨⟨fun h => ⟨h, fun _ _ _ => trivial⟩, And.left⟩, Iff.rfl, fun h => ?_⟩
  have hn : Nests .sameKind t := nests_of_isBalanced h.1 h.2
  exact ⟨hn.isBalanced_kinds.1, hn.isBalanced_kinds.2, fun ps hps p => hn.of_mem_cut hps⟩

/-- A comma inside two groups, and one outside all. -/
def nestedList : Text := "f(a[1, 2], 3), b".toList

/-- Commas between brackets of which each is closed by one of the other kind. -/
def crossedList : Text := "f(a], b[c)".toList

theorem nests_nestedList : Nests .sameKind nestedList := by
  have hother {s : Text} (hs : ∀ c ∈ s, isOpener c = false ∧ isCloser c = false) {t : Text}
      (ht : Nests .sameKind t) : Nests .sameKind (s ++ t) := by
    induction s with
    | nil => exact ht
    | cons c s ih =>
      obtain ⟨hc, hs⟩ := List.forall_mem_cons.mp hs
      exact .other hc.1 hc.2 (ih hs)
  have hsquare : Nests .sameKind ("a".toList ++ '[' :: ("1, 2".toList ++ ']' :: ", 3".toList)) :=
    hother (by decide) (.group rfl rfl (.inr ⟨rfl, rfl⟩)
      (hother (s := "1, 2".toList) (by decide) .nil) (hother (s := ", 3".toList) (by decide) .nil))
  exact hother (s := "f".toList) (by decide) (.group rfl rfl (.inl ⟨rfl, rfl⟩) hsquare
    (hother (s := ", b".toList) (by decide) .nil))

/-- The first list is cut outside its group only. The second is cut between a parenthesis and the
one that would close it, since a square bracket has closed it before. -/
theorem nests_sameKind_iff_lists :
    (∀ ps, IsCut nestedList ps → ∀ p ∈ ps, Nests .sameKind p) ∧
    split nestedList = .ok ["f(a[1, 2], 3)".toList, "b".toList] ∧
    split crossedList = .ok ["f(a]".toList, "b[c)".toList] ∧ ¬Nests .sameKind crossedList := by
  refine ⟨((nests_sameKind_iff nestedList).2.2 nests_nestedList).2.2, by decide +kernel,
    by decide +kernel, fun h => ?_⟩
  have hpair : Pairs crossedList '(' ']' := ⟨"f".toList, "a".toList, ", b[c)".toList, by decide⟩
  rcases ((nests_sameKind_iff crossedList).2.1.mp h).2 '(' ']' hpair with ⟨-, hc⟩ | ⟨ho, -⟩
  · exact absurd hc (by decide)
  · exact absurd ho (by decide)

end HeaderBindings.Argument
