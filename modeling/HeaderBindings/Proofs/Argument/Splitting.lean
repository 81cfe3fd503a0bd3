import HeaderBindings.Argument.Pieces
import HeaderBindings.Proofs.Text.Brackets
import HeaderBindings.Proofs.Text.Lines

/-!
# Splitting and joining argument lists

An argument list is cut at the commas outside all brackets. A balanced text is cut so in one way
only, and splitting keeps the pieces that are arguments: those that are neither empty nor one group
in parentheses. A text that is not balanced is refused. The other way round, arguments that are
joined by commas are split again.
-/
namespace HeaderBindings.Argument

open Text

/-! ### Groups -/

/-- A text is one group: parentheses around a text whose parentheses are balanced. -/
def IsGroup (t : Text) : Prop :=
  ∃ inner, t = '(' :: (inner ++ [')']) ∧ Brackets.round.IsBalanced inner

theorem depth_round (c : Char) :
    Brackets.round.depth [c] = if c = '(' then 1 else if c = ')' then -1 else 0 := by
  by_cases ho : c = '('
  · subst ho
    rfl
  · by_cases hc : c = ')'
    · subst hc
      rfl
    · simp [Brackets.depth, Brackets.round, ho, hc]

theorem closesAtEnd_succ_iff {depth : ℕ} {t : Text} : closesAtEnd (depth + 1) t = true ↔
    ∃ inner, t = inner ++ [')'] ∧ Brackets.round.Closes depth inner := by
  induction t generalizing depth with
  | nil => simp [closesAtEnd]
  | cons c r ih =>
    -- the text inside begins with the same character, unless that closes the group
    have hinner : (∃ inner, c :: r = inner ++ [')'] ∧ Brackets.round.Closes depth inner) ↔
        (c = ')' ∧ r = [] ∧ depth = 0) ∨ ∃ inner, r = inner ++ [')'] ∧
          Brackets.round.Closes (depth + Brackets.round.depth [c]) inner := by
      constructor
      · rintro ⟨inner, he, hi⟩
        cases inner with
        | nil =>
          obtain ⟨rfl, rfl⟩ := List.cons.inj he
          exact .inl ⟨rfl, rfl, by simpa using Brackets.closes_nil.mp hi⟩
        | cons d inner =>
          obtain ⟨rfl, rfl⟩ := List.cons.inj he
          exact .inr ⟨inner, rfl, (Brackets.closes_cons.mp hi).2⟩
      · rintro (⟨rfl, rfl, rfl⟩ | ⟨inner, rfl, hi⟩)
        · exact ⟨[], rfl, Brackets.closes_nil.mpr rfl⟩
        · exact ⟨c :: inner, rfl, Brackets.closes_cons.mpr ⟨Int.natCast_nonneg _, hi⟩⟩
    rw [hinner, depth_round, closesAtEnd]
    by_cases ho : c = '('
    · simp [ho, ih]
    by_cases hc : c = ')'
    · cases depth with
      | zero =>
        have hnone : ∀ inner, ¬Brackets.round.Closes (-1) inner := fun inner h =>
          absurd h.zero_le (by decide)
        simp [hc, hnone]
      | succ depth => simp [hc, ih]
    · simp [ho, hc, ih]

theorem isGroup_iff {t : Text} : isGroup t = true ↔ IsGroup t := by
  cases t with
  | nil => simp [isGroup, IsGroup]
  | cons c r =>
    by_cases hc : c = '('
    · subst hc
      have hopen : closesAtEnd 0 ('(' :: r) = closesAtEnd (0 + 1) r := rfl
      simp only [isGroup, IsGroup, List.head?_cons, hopen, decide_true, Bool.true_and,
        closesAtEnd_succ_iff, List.cons.injEq, true_and]
      rfl
    · simp [isGroup, IsGroup, hc]

instance : DecidablePred IsGroup := fun _ => decidable_of_iff _ isGroup_iff

/-! ### Fragments -/

/-- The brackets that keep a comma from separating arguments. -/
def brackets : Brackets := ⟨isOpener, isCloser⟩

/-- What goes on inside so many brackets and closes them, with no comma outside all of them. -/
structure IsFragmentFrom (n : ℤ) (t : Text) : Prop where
  closes : brackets.Closes n t
  comma : ∀ u v, t = u ++ ',' :: v → n + brackets.depth u ≠ 0

/-- A balanced text with no comma outside all brackets. -/
def IsFragment (t : Text) : Prop := IsFragmentFrom 0 t

theorem depth_brackets (c : Char) :
    brackets.depth [c] = if isOpener c then 1 else if isCloser c then -1 else 0 := by
  cases ho : isOpener c with
  | true =>
    have hc : isCloser c = false := by
      simp only [isOpener, Bool.or_eq_true, decide_eq_true_eq] at ho
      rcases ho with rfl | rfl <;> decide
    simp [Brackets.depth, brackets, ho, hc]
  | false =>
    cases hc : isCloser c with
    | true => simp [Brackets.depth, brackets, ho, hc]
    | false => simp [Brackets.depth, brackets, ho, hc]

theorem isFragmentFrom_nil {n : ℤ} : IsFragmentFrom n [] ↔ n = 0 := by
  refine ⟨fun h => Brackets.closes_nil.mp h.closes, fun h => ⟨Brackets.closes_nil.mpr h, ?_⟩⟩
  intro u v he
  simp at he

theorem isFragmentFrom_cons {n : ℤ} {c : Char} {t : Text} : IsFragmentFrom n (c :: t) ↔
    0 ≤ n ∧ ¬(c = ',' ∧ n = 0) ∧ IsFragmentFrom (n + brackets.depth [c]) t := by
  constructor
  · intro h
    obtain ⟨hn, ht⟩ := Brackets.closes_cons.mp h.closes
    refine ⟨hn, ?_, ht, fun u v he => ?_⟩
    · rintro ⟨rfl, rfl⟩
      exact h.comma [] t rfl rfl
    · rw [add_assoc, ← Brackets.depth_cons]
      exact h.comma (c :: u) v (by rw [he]; rfl)
  · rintro ⟨hn, hcomma, ht⟩
    refine ⟨Brackets.closes_cons.mpr ⟨hn, ht.closes⟩, fun u v he => ?_⟩
    cases u with
    | nil =>
      obtain ⟨rfl, rfl⟩ := List.cons.inj he
      exact fun h0 => hcomma ⟨rfl, by simpa using h0⟩
    | cons d u =>
      obtain ⟨rfl, rfl⟩ := List.cons.inj he
      rw [Brackets.depth_cons, ← add_assoc]
      exact ht.comma u v rfl

/-! ### Pieces -/

theorem pieces?_comma (r : Text) : pieces? 0 (',' :: r) = (pieces? 0 r).map ([] :: ·) := by
  rw [pieces?, if_neg (by decide), if_neg (by decide), if_pos (by decide)]

/-- A closing bracket with nothing open before it. -/
theorem pieces?_stray {n : ℕ} {c : Char} (h : n + brackets.depth [c] < 0) (r : Text) :
    pieces? n (c :: r) = none := by
  rw [depth_brackets] at h
  split_ifs at h with ho hc
  · omega
  · have hn : n = 0 := by omega
    subst hn
    simp [pieces?, ho, hc]
  · omega

/-- A character that separates nothing belongs to the first piece. -/
theorem pieces?_cons {n m : ℕ} {c : Char} (hc : ¬(c = ',' ∧ n = 0))
    (hm : (m : ℤ) = n + brackets.depth [c]) (r : Text) :
    pieces? n (c :: r) = (pieces? m r).map (onto c) := by
  rw [depth_brackets] at hm
  split_ifs at hm with ho hcl
  · obtain rfl : m = n + 1 := by omega
    simp [pieces?, ho]
  · obtain rfl : n = m + 1 := by omega
    simp [pieces?, ho, hcl]
  · obtain rfl : m = n := by omega
    simp [pieces?, ho, hcl, hc]

theorem pieces?_nil_eq_some_iff {n : ℕ} {ps : List Text} :
    pieces? n [] = some ps ↔ n = 0 ∧ ps = [[]] := by
  by_cases hn : n = 0
  · simp [pieces?, hn, eq_comm]
  · simp [pieces?, hn]

/-- A text has pieces exactly if it closes the brackets that are open. -/
theorem isSome_pieces?_iff {n : ℕ} {t : Text} :
    (pieces? n t).isSome = true ↔ brackets.Closes n t := by
  induction t generalizing n with
  | nil =>
    rw [Brackets.closes_nil]
    by_cases hn : n = 0
    · simp [pieces?, hn]
    · simp [pieces?, hn]
  | cons c r ih =>
    rw [Brackets.closes_cons]
    by_cases hc : c = ',' ∧ n = 0
    · obtain ⟨rfl, rfl⟩ := hc
      have hdepth : brackets.depth [','] = 0 := rfl
      simp [pieces?_comma, hdepth, ih]
    rcases lt_or_ge (n + brackets.depth [c]) 0 with hneg | hpos
    · have hnot : ¬brackets.Closes (n + brackets.depth [c]) r := fun h => by
        have := h.zero_le
        omega
      simp [pieces?_stray hneg, hnot]
    · obtain ⟨m, hm⟩ := Int.eq_ofNat_of_zero_le hpos
      rw [pieces?_cons hc hm.symm, Option.isSome_map, ih, hm]
      simp

/-- A fragment is one piece, up to where a comma or the end follows. -/
theorem pieces?_append {n : ℕ} {p : Text} (h : IsFragmentFrom n p) (r : Text) :
    pieces? n (p ++ r) = (pieces? 0 r).map (p.foldr onto ·) := by
  induction p generalizing n with
  | nil =>
    obtain rfl : n = 0 := by simpa using isFragmentFrom_nil.mp h
    simp
  | cons c p ih =>
    obtain ⟨-, hc, hp⟩ := isFragmentFrom_cons.mp h
    obtain ⟨m, hm⟩ := Int.eq_ofNat_of_zero_le hp.closes.zero_le
    have hcomma : ¬(c = ',' ∧ n = 0) := by simpa using hc
    rw [List.cons_append, pieces?_cons hcomma hm.symm, ih (hm ▸ hp), Option.map_map]
    rfl

/-! ### Cuts -/

/-- A text is cut into fragments at commas, which then stand outside all brackets. -/
structure IsCut (t : Text) (ps : List Text) : Prop where
  ne_nil : ps ≠ []
  join : Text.join [','] ps = t
  fragments : ∀ p ∈ ps, IsFragment p

/-- Fragments that are joined by commas are the pieces of the whole. -/
theorem IsCut.pieces? {t : Text} {ps : List Text} (h : IsCut t ps) : pieces? 0 t = some ps := by
  obtain ⟨hne, rfl, hps⟩ := h
  induction ps with
  | nil => exact absurd rfl hne
  | cons p ps ih =>
    obtain ⟨hp, hrest⟩ := List.forall_mem_cons.mp hps
    have hcut := pieces?_append (n := 0) hp
    cases ps with
    | nil =>
      have hend := hcut []
      rw [List.append_nil] at hend
      rw [Text.join, hend]
      simp [Argument.pieces?, foldr_onto]
    | cons q qs =>
      have hjoin : Text.join [','] (p :: q :: qs) = p ++ ',' :: Text.join [','] (q :: qs) := by
        simp [Text.join]
      rw [hjoin, hcut, pieces?_comma, ih (List.cons_ne_nil _ _) hrest]
      simp [foldr_onto]

/-- The pieces of a text that is cut inside brackets: the first piece closes them. -/
theorem eq_join_of_pieces? {n : ℕ} {t : Text} {ps : List Text} (h : pieces? n t = some ps) :
    ∃ p qs, ps = p :: qs ∧ join [','] ps = t ∧ IsFragmentFrom n p ∧ ∀ q ∈ qs, IsFragment q := by
  induction t generalizing n ps with
  | nil =>
    obtain ⟨rfl, rfl⟩ := pieces?_nil_eq_some_iff.mp h
    exact ⟨[], [], rfl, rfl, isFragmentFrom_nil.mpr rfl, nofun⟩
  | cons c r ih =>
    by_cases hc : c = ',' ∧ n = 0
    · obtain ⟨rfl, rfl⟩ := hc
      rw [pieces?_comma] at h
      obtain ⟨ps, hps, rfl⟩ := Option.map_eq_some_iff.mp h
      obtain ⟨p, qs, rfl, hjoin, hp, hqs⟩ := ih hps
      refine ⟨[], p :: qs, rfl, ?_, isFragmentFrom_nil.mpr rfl, List.forall_mem_cons.mpr ⟨hp, hqs⟩⟩
      rw [join, hjoin]
      rfl
    rcases lt_or_ge (n + brackets.depth [c]) 0 with hneg | hpos
    · rw [pieces?_stray hneg] at h
      cases h
    · obtain ⟨m, hm⟩ := Int.eq_ofNat_of_zero_le hpos
      rw [pieces?_cons hc hm.symm] at h
      obtain ⟨ps, hps, rfl⟩ := Option.map_eq_some_iff.mp h
      obtain ⟨p, qs, rfl, hjoin, hp, hqs⟩ := ih hps
      refine ⟨c :: p, qs, rfl, ?_, isFragmentFrom_cons.mpr ⟨Int.natCast_nonneg _, ?_, ?_⟩, hqs⟩
      · rw [← hjoin, onto, join_cons, join_cons]
        rfl
      · simpa using hc
      · rw [hm]
        exact hp

theorem isCut_of_pieces? {t : Text} {ps : List Text} (h : pieces? 0 t = some ps) : IsCut t ps := by
  obtain ⟨p, qs, rfl, hjoin, hp, hqs⟩ := eq_join_of_pieces? h
  exact ⟨List.cons_ne_nil _ _, hjoin, List.forall_mem_cons.mpr ⟨hp, hqs⟩⟩

/-- A balanced text is cut in exactly one way. -/
theorem existsUnique_isCut {t : Text} (h : brackets.IsBalanced t) : ∃! ps, IsCut t ps := by
  obtain ⟨ps, hps⟩ := Option.isSome_iff_exists.mp (isSome_pieces?_iff (n := 0).mpr h)
  refine ⟨ps, isCut_of_pieces? hps, fun rs hrs => ?_⟩
  exact Option.some.inj (hrs.pieces?.symm.trans hps)

instance : DecidablePred brackets.IsBalanced := fun _ =>
  decidable_of_iff _ (isSome_pieces?_iff (n := 0))

/-- Fragments are the texts of one piece. -/
theorem isFragment_iff {p : Text} : IsFragment p ↔ pieces? 0 p = some [p] := by
  constructor
  · intro h
    have hcut : IsCut p [p] := ⟨List.cons_ne_nil _ _, rfl, by simpa using h⟩
    exact hcut.pieces?
  · intro h
    obtain ⟨q, qs, he, -, hq, -⟩ := eq_join_of_pieces? h
    obtain ⟨rfl, -⟩ := List.cons.inj he
    exact hq

instance : DecidablePred IsFragment := fun _ => decidable_of_iff _ isFragment_iff.symm

/-! ### Blanks around fragments -/

theorem depth_blank {c : Char} (h : isBlank c = true) : brackets.depth [c] = 0 ∧ c ≠ ',' := by
  have hb : ∀ d ∈ ['(', '[', ')', ']', ','], isBlank d = false := by decide
  have hc : c ∉ ['(', '[', ')', ']', ','] := by
    intro hm
    rw [hb c hm] at h
    cases h
  simp only [List.mem_cons, List.not_mem_nil, or_false, not_or] at hc
  simp [depth_brackets, isOpener, isCloser, hc]

theorem isFragmentFrom_blanks_append {n : ℤ} {u t : Text} (h : ∀ c ∈ u, isBlank c = true) :
    IsFragmentFrom n (u ++ t) ↔ IsFragmentFrom n t := by
  induction u with
  | nil => rfl
  | cons c u ih =>
    obtain ⟨hc, hu⟩ := List.forall_mem_cons.mp h
    obtain ⟨hdepth, hcomma⟩ := depth_blank hc
    rw [List.cons_append, isFragmentFrom_cons, hdepth, add_zero, ih hu]
    exact ⟨fun hf => hf.2.2, fun hf => ⟨hf.closes.zero_le, fun hn => hcomma hn.1, hf⟩⟩

theorem isFragmentFrom_append_blanks {n : ℤ} {t u : Text} (h : ∀ c ∈ u, isBlank c = true) :
    IsFragmentFrom n (t ++ u) ↔ IsFragmentFrom n t := by
  induction t generalizing n with
  | nil =>
    have hu := isFragmentFrom_blanks_append (n := n) (t := []) h
    rwa [List.append_nil] at hu
  | cons c t ih => rw [List.cons_append, isFragmentFrom_cons, isFragmentFrom_cons, ih]

theorem isFragment_trim {t : Text} (h : IsFragment t) : IsFragment (trim t) := by
  obtain ⟨u, v, ht, hu, hv⟩ := exists_blanks_trim t
  rw [IsFragment, ht, isFragmentFrom_blanks_append hu, isFragmentFrom_append_blanks hv] at h
  exact h

/-! ### Arguments -/

/-- The trimmed pieces that are neither empty nor one group. -/
def argumentsAmong (ps : List Text) : List Text :=
  (ps.map trim).filter fun p => p ≠ [] ∧ ¬IsGroup p

/-- The text of an argument as it stands in a list of arguments. -/
structure IsArgumentText (a : Text) : Prop where
  trimmed : IsTrimmed a
  ne_nil : a ≠ []
  fragment : IsFragment a
  not_group : ¬IsGroup a

theorem isArgumentText_iff {a : Text} :
    IsArgumentText a ↔ trim a = a ∧ a ≠ [] ∧ IsFragment a ∧ ¬IsGroup a :=
  ⟨fun h => ⟨trim_eq_self h.trimmed, h.ne_nil, h.fragment, h.not_group⟩,
    fun ⟨ht, hne, hf, hg⟩ => ⟨ht ▸ isTrimmed_trim a, hne, hf, hg⟩⟩

instance : DecidablePred IsArgumentText := fun _ => decidable_of_iff _ isArgumentText_iff.symm

theorem IsCut.split {t : Text} {ps : List Text} (h : IsCut t ps) : split t =
    .ok (if argumentsAmong ps = ["void".toList] then [] else argumentsAmong ps) := by
  have harguments : ((ps.map trim).filter fun p => !p.isEmpty && !isGroup p) =
      argumentsAmong ps := by
    refine List.filter_congr (fun p _ => ?_)
    rw [Bool.eq_iff_iff]
    simp [← isGroup_iff]
  rw [Argument.split, h.pieces?]
  dsimp only
  rw [harguments]

theorem split_eq_error_iff {t : Text} {r : Rejection} :
    split t = .error r ↔ ¬brackets.IsBalanced t ∧ r = ⟨.unbalanced, t⟩ := by
  have hb : brackets.IsBalanced t ↔ (pieces? 0 t).isSome = true :=
    (isSome_pieces?_iff (n := 0)).symm
  rw [hb, split]
  cases pieces? 0 t with
  | none => simp [eq_comm]
  | some ps => simp

theorem isArgumentText_of_mem {t a : Text} {ps : List Text} (h : IsCut t ps)
    (ha : a ∈ argumentsAmong ps) : IsArgumentText a := by
  obtain ⟨hm, hkept⟩ := List.mem_filter.mp ha
  obtain ⟨p, hp, rfl⟩ := List.mem_map.mp hm
  obtain ⟨hne, hgroup⟩ := of_decide_eq_true hkept
  exact ⟨isTrimmed_trim p, hne, isFragment_trim (h.fragments p hp), hgroup⟩

/-- Arguments that are joined by commas and blanks are cut there. -/
theorem isCut_join {a : Text} {as : List Text} {blanks : Text}
    (h : ∀ b ∈ a :: as, IsArgumentText b) (hb : ∀ c ∈ blanks, isBlank c = true) :
    IsCut (join (',' :: blanks) (a :: as)) (a :: as.map (blanks ++ ·)) := by
  refine ⟨List.cons_ne_nil _ _, ?_, ?_⟩
  · rw [join_cons, join_cons, List.flatMap_map]
    rfl
  · obtain ⟨ha, has⟩ := List.forall_mem_cons.mp h
    refine List.forall_mem_cons.mpr ⟨ha.fragment, fun p hp => ?_⟩
    obtain ⟨b, hm, rfl⟩ := List.mem_map.mp hp
    exact (isFragmentFrom_blanks_append hb).mpr (has b hm).fragment

theorem argumentsAmong_blanks_append {a : Text} {as : List Text} {blanks : Text}
    (h : ∀ b ∈ a :: as, IsArgumentText b) (hb : ∀ c ∈ blanks, isBlank c = true) :
    argumentsAmong (a :: as.map (blanks ++ ·)) = a :: as := by
  have htrim : (a :: as.map (blanks ++ ·)).map trim = a :: as := by
    obtain ⟨ha, has⟩ := List.forall_mem_cons.mp h
    have hrest : as.map (trim ∘ (blanks ++ ·)) = as.map id := List.map_congr_left fun b hm =>
      (trim_blanks_append hb b).trans (trim_eq_self (has b hm).trimmed)
    rw [List.map_id] at hrest
    rw [List.map_cons, List.map_map, trim_eq_self ha.trimmed, hrest]
  rw [argumentsAmong, htrim]
  exact List.filter_eq_self.mpr fun b hm => decide_eq_true ⟨(h b hm).ne_nil, (h b hm).not_group⟩

/-- A list is refused exactly if its brackets are not balanced. Any other is cut in one way at the
commas outside all brackets, and its arguments are those among the pieces, none if that is `void`
alone. So they are trimmed and not empty, have no comma outside all brackets and are not groups; and
any such texts but `void` alone are the arguments of the list in which they are joined by commas,
with or without blanks. -/
theorem split_eq_argumentsAmong :
    (∀ t, (∀ r, split t = .error r ↔ ¬brackets.IsBalanced t ∧ r = ⟨.unbalanced, t⟩) ∧
      (brackets.IsBalanced t → (∃! ps, IsCut t ps) ∧ ∀ ps, IsCut t ps → split t =
        .ok (if argumentsAmong ps = ["void".toList] then [] else argumentsAmong ps)) ∧
      ∀ as, split t = .ok as → ∀ a ∈ as, IsArgumentText a) ∧
    ∀ as blanks, (∀ a ∈ as, IsArgumentText a) → as ≠ ["void".toList] →
      (∀ c ∈ blanks, isBlank c = true) → split (join (',' :: blanks) as) = .ok as := by
  refine ⟨fun t => ⟨fun r => split_eq_error_iff, fun h => ⟨existsUnique_isCut h, fun ps hps =>
    hps.split⟩, fun as h a ha => ?_⟩, fun as blanks h hvoid hb => ?_⟩
  · have hbalanced : brackets.IsBalanced t := by
      by_contra hn
      rw [split_eq_error_iff.mpr ⟨hn, rfl⟩] at h
      cases h
    obtain ⟨ps, hps, -⟩ := existsUnique_isCut hbalanced
    rw [hps.split] at h
    split_ifs at h
    · cases h
      cases ha
    · cases h
      exact isArgumentText_of_mem hps ha
  · cases as with
    | nil => rfl
    | cons a as =>
      rw [(isCut_join h hb).split, argumentsAmong_blanks_append h hb, if_neg hvoid]

/-- Commas inside brackets separate nothing, and two groups side by side are not one group. -/
theorem split_eq_argumentsAmong_nested :
    split "(int x, f(a,b)".toList = .error ⟨.unbalanced, "(int x, f(a,b)".toList⟩ ∧
      split "CvMat* m[2,3], (a, b)(c), int n CV_DEFAULT((1))".toList =
        .ok ["CvMat* m[2,3]".toList, "(a, b)(c)".toList, "int n CV_DEFAULT((1))".toList] :=
  ⟨((split_eq_argumentsAmong.1 _).1 _).mpr ⟨by decide, rfl⟩,
    split_eq_argumentsAmong.2
      ["CvMat* m[2,3]".toList, "(a, b)(c)".toList, "int n CV_DEFAULT((1))".toList]
      [' '] (by decide) (by decide) (by decide)⟩

end HeaderBindings.Argument
