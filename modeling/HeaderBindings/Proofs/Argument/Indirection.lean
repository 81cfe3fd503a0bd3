import HeaderBindings.Proofs.Argument.Classification

/-!
# Indirection

A star or an opening square bracket outside parentheses is one level of indirection. Classification
counts the stars after the base type and all square brackets in the trailing text. So what it takes
a text for has the indirection of the text unless stars stand in the trailing text or square
brackets stand in its parentheses: the main statement is this balance.
-/
namespace HeaderBindings.Argument

open NativeType (Registry Shape)
open Text

/-! ### Characters outside and inside parentheses -/

/-- The characters of a text, parentheses apart, that stand at the depths to keep, when so many
parentheses are open at the start. -/
def atDepths (keep : ℕ → Bool) : ℕ → Text → Text
  | _, [] => []
  | depth, c :: r =>
    if c = '(' then atDepths keep (depth + 1) r
    else if c = ')' then atDepths keep (depth - 1) r
    else if keep depth then c :: atDepths keep depth r
    else atDepths keep depth r

def outsideParens (t : Text) : Text := atDepths (· = 0) 0 t

def insideParens (t : Text) : Text := atDepths (· ≠ 0) 0 t

/-- Characters that stand for a level of indirection. -/
def isPointerMark (c : Char) : Bool := c = '*' || c = '['

/-- The levels of indirection that a text spells. -/
def indirections (t : Text) : ℕ := (outsideParens t).countP isPointerMark

/-- Characters that neither spell a level of indirection nor open or close a parenthesis. -/
def isNeutral (c : Char) : Bool := c ≠ '(' && c ≠ ')' && !isPointerMark c

/-- Characters of a kind are neutral if none of the others is of that kind. -/
theorem isNeutral_of_kind {kind : Char → Bool} (hk : ∀ d ∈ ['(', ')', '*', '['], kind d = false)
    {c : Char} (h : kind c = true) : isNeutral c = true := by
  by_contra hn
  have hc : c ∈ ['(', ')', '*', '['] := by
    simp only [isNeutral, isPointerMark] at hn
    grind
  rw [hk c hc] at h
  cases h

theorem isNeutral_of_isBlank {c : Char} (h : isBlank c = true) : isNeutral c = true :=
  isNeutral_of_kind (by decide) h

theorem isNeutral_of_isWord {c : Char} (h : isWord c = true) : isNeutral c = true :=
  isNeutral_of_kind (by decide) h

theorem mem_of_mem_atDepths {keep : ℕ → Bool} {depth : ℕ} {t : Text} {c : Char}
    (h : c ∈ atDepths keep depth t) : c ∈ t := by
  induction t generalizing depth with
  | nil => cases h
  | cons d r ih =>
    rw [atDepths] at h
    split_ifs at h
    · exact List.mem_cons_of_mem _ (ih h)
    · exact List.mem_cons_of_mem _ (ih h)
    · rcases List.mem_cons.mp h with rfl | h
      · exact List.mem_cons_self
      · exact List.mem_cons_of_mem _ (ih h)
    · exact List.mem_cons_of_mem _ (ih h)

theorem countP_atDepths_of_neutral {keep : ℕ → Bool} {depth : ℕ} {t : Text}
    (h : ∀ c ∈ t, isNeutral c = true) : (atDepths keep depth t).countP isPointerMark = 0 := by
  refine List.countP_eq_zero.mpr (fun c hc => ?_)
  have hn := h c (mem_of_mem_atDepths hc)
  simp only [isNeutral, Bool.and_eq_true, Bool.not_eq_true'] at hn
  simp [hn.2]

/-- Every character is outside or inside. -/
theorem count_outside_add_inside {c : Char} (ho : c ≠ '(') (hc : c ≠ ')') (depth : ℕ) (t : Text) :
    (atDepths (· = 0) depth t).count c + (atDepths (· ≠ 0) depth t).count c = t.count c := by
  induction t generalizing depth with
  | nil => rfl
  | cons d r ih =>
    rw [atDepths, atDepths]
    by_cases hdo : d = '('
    · simpa [hdo, ho.symm] using ih (depth + 1)
    by_cases hdc : d = ')'
    · simpa [hdc, hc.symm] using ih (depth - 1)
    have htail := ih depth
    by_cases hd : depth = 0
    · simp [hdo, hdc, hd, List.count_cons] at htail ⊢
      omega
    · simp [hdo, hdc, hd, List.count_cons] at htail ⊢
      omega

/-! ### Parts of a text without indirection -/

section Parts
variable {t u : Text}

theorem indirections_append_of_neutral (h : ∀ c ∈ u, isNeutral c = true) :
    indirections (u ++ t) = indirections t := by
  induction u with
  | nil => rfl
  | cons c u ih =>
    obtain ⟨hc, hu⟩ := List.forall_mem_cons.mp h
    simp only [isNeutral, Bool.and_eq_true, Bool.not_eq_true', decide_eq_true_eq] at hc
    obtain ⟨⟨ho, hcl⟩, hm⟩ := hc
    have hstep : outsideParens (c :: (u ++ t)) = c :: outsideParens (u ++ t) := by
      simp [outsideParens, atDepths, ho, hcl]
    rw [List.cons_append, indirections, hstep, List.countP_cons_of_neg (by simp [hm])]
    exact ih hu

theorem countP_atDepths_append (keep : ℕ → Bool) (depth : ℕ)
    (h : ∀ c ∈ u, isNeutral c = true) : (atDepths keep depth (t ++ u)).countP isPointerMark =
      (atDepths keep depth t).countP isPointerMark := by
  induction t generalizing depth with
  | nil => simpa [atDepths] using countP_atDepths_of_neutral h
  | cons c t ih =>
    rw [List.cons_append, atDepths, atDepths]
    split_ifs
    · exact ih _
    · exact ih _
    · rw [List.countP_cons, List.countP_cons, ih]
    · exact ih _

theorem indirections_skipBlanks (t : Text) : indirections (skipBlanks t) = indirections t := by
  have hb : ∀ c ∈ t.takeWhile isBlank, isNeutral c = true :=
    fun c hc => isNeutral_of_isBlank (List.mem_takeWhile_imp hc)
  conv_rhs => rw [← List.takeWhile_append_dropWhile (p := isBlank) (l := t)]
  exact (indirections_append_of_neutral hb).symm

theorem indirections_dropRightWhile (t : Text) :
    indirections (dropRightWhile isBlank t) = indirections t := by
  obtain ⟨v, ht, hv⟩ := exists_dropRightWhile_append isBlank t
  conv_rhs => rw [ht]
  exact (countP_atDepths_append _ 0 fun c hc => isNeutral_of_isBlank (hv c hc)).symm

theorem indirections_trim (t : Text) : indirections (trim t) = indirections t := by
  rw [trim, indirections_dropRightWhile, indirections_skipBlanks]

end Parts

/-! ### The parts of an argument -/

theorem indirections_name_append {t name rest : Text} (h : readName? t = some (name, rest)) :
    indirections t = indirections rest := by
  have hw : IsWordText name := .of_isName (isName_of_readName? h)
  rw [readName?_append h]
  exact indirections_append_of_neutral (fun c hc => isNeutral_of_isWord (hw c hc))

theorem indirections_dropConst? {t rest : Text} (h : Tokens.dropConst? t = some rest) :
    indirections t = indirections rest := by
  simp only [Tokens.dropConst?, Option.bind_eq_bind, Option.bind_eq_some_iff] at h
  obtain ⟨r, hr, hrest⟩ := h
  split_ifs at hrest
  cases hrest
  have hconst : ∀ c ∈ "const".toList, isNeutral c = true := by decide
  rw [dropPrefix?_eq_some_iff.mp hr, indirections_append_of_neutral hconst, indirections_skipBlanks]

theorem indirections_getD_dropConst? (t : Text) :
    indirections ((Tokens.dropConst? t).getD t) = indirections t := by
  cases h : Tokens.dropConst? t with
  | none => rfl
  | some rest => exact (indirections_dropConst? h).symm

/-- All stars that are read stand outside parentheses. -/
theorem indirections_readStars (t : Text) :
    indirections t = (Tokens.readStars t).1 + indirections (Tokens.readStars t).2 := by
  induction t with
  | nil => rfl
  | cons c r ih =>
    rw [Tokens.readStars]
    split_ifs with hs hb
    · subst hs
      have hstep : indirections ('*' :: r) = indirections r + 1 := by
        simp [indirections, outsideParens, atDepths, isPointerMark]
      rw [hstep, ih]
      exact Nat.add_right_comm _ _ _
    · have hn : ∀ d ∈ [c], isNeutral d = true := by simpa using isNeutral_of_isBlank hb
      rw [← List.singleton_append, indirections_append_of_neutral hn]
      exact ih
    · exact (Nat.zero_add _).symm

theorem indirections_readName {isReturn : Bool} {whole rest q : Text} {name : Option Text}
    (h : Tokens.readName isReturn whole rest = .ok (name, q)) :
    indirections rest = indirections q := by
  unfold Tokens.readName at h
  split_ifs at h
  · cases h
    rfl
  · split at h
    · next n r hn =>
      cases h
      rw [indirections_name_append hn, indirections_trim]
    · cases h

/-- What is spelled and what is counted differ by the trailing text, of which all square brackets
are counted and nothing else. -/
theorem indirections_read {isReturn : Bool} {t : Text} {tokens : Tokens}
    (h : Tokens.read isReturn t = .ok tokens) :
    indirections t + tokens.qualifiers.count '[' =
      tokens.pointerDepth + indirections tokens.qualifiers ∧ tokens.pointerDepth ≤ 1 := by
  unfold Tokens.read at h
  dsimp only at h
  split at h
  · cases h
  · next baseType r hbase =>
    have hstart : indirections t = indirections r := by
      rw [← indirections_trim, ← indirections_getD_dropConst?, indirections_name_append hbase]
    have hstars := indirections_readStars r
    generalize hrest : (Tokens.dropConst? (trim (Tokens.readStars r).2)).getD
      (trim (Tokens.readStars r).2) = rest at h
    have hafter : indirections rest = indirections (Tokens.readStars r).2 := by
      rw [← hrest, indirections_getD_dropConst?, indirections_trim]
    cases hname : Tokens.readName isReturn t rest with
    | error e => rw [hname] at h; cases h
    | ok p =>
      have hq := indirections_readName hname
      simp only [hname, bind, Except.bind] at h
      split_ifs at h with hdepth
      cases h
      dsimp only
      omega

/-! ### The balance -/

/-- The levels of indirection of what is bound; nothing is bound for a void return. -/
def indirectionOf (o : Option Descriptor) : ℕ := if o.any Descriptor.isMatrix then 1 else 0

/-- What is made of the tokens of an argument has the indirection that was counted. -/
theorem indirectionOf_classify {registry : Registry} {returnName : Text} {isReturn : Bool}
    {t : Text} {o : Option Descriptor} (h : classify registry returnName isReturn t = .ok o) :
    ∃ tokens, Tokens.read isReturn t = .ok tokens ∧
      indirectionOf o = tokens.pointerDepth ∧ ∀ d ∈ o, d.qualifiers = tokens.qualifiers := by
  obtain ⟨tokens, shape, ht, hs, hvoid, ho⟩ := classify_eq_ok h
  obtain ⟨-, hmatrix, hvalue, -⟩ := shapeOf_eq_ok hs
  have hle := (Tokens.readFrom_of_read ht).pointerDepth
  refine ⟨tokens, ht, ?_, fun d hd => (ho d hd).2.2.2.2.1⟩
  cases o with
  | none =>
    have hk : shape.kind = .void := hvoid.mp rfl
    have hdepth := hvalue (by simp [hk])
    simp [indirectionOf, hdepth]
  | some d =>
    obtain ⟨-, -, -, hkind, -⟩ := ho d rfl
    by_cases hm : shape.kind = .matrix
    · have hdepth := (hmatrix hm).2
      simp only [indirectionOf, Option.any_some, Descriptor.isMatrix, hkind, hm, decide_true,
        if_true]
      omega
    · simp [indirectionOf, Descriptor.isMatrix, hkind, hm, hvalue hm]

theorem countP_isPointerMark (t : Text) :
    t.countP isPointerMark = t.count '*' + t.count '[' := by
  induction t with
  | nil => rfl
  | cons c r ih =>
    have hc : (if isPointerMark c then 1 else 0) =
        (if c = '*' then 1 else 0) + if c = '[' then 1 else 0 := by
      by_cases hs : c = '*'
      · subst hs
        rfl
      · simp [isPointerMark, hs]
    simp only [List.countP_cons, List.count_cons, beq_iff_eq, ih, hc]
    omega

/-- What is bound for a text has the levels of indirection that were counted. The text itself spells
more by the stars of its trailing text outside parentheses, and fewer by the square brackets inside
them; so it spells just as many exactly if there are as many of the ones as of the others. -/
theorem indirections_of_classify {registry : Registry} {returnName : Text} {isReturn : Bool}
    {t : Text} {o : Option Descriptor} (h : classify registry returnName isReturn t = .ok o) :
    ∃ tokens, Tokens.read isReturn t = .ok tokens ∧
      (∀ d ∈ o, d.qualifiers = tokens.qualifiers) ∧ indirectionOf o = tokens.pointerDepth ∧
      indirections t + (insideParens tokens.qualifiers).count '[' =
        indirectionOf o + (outsideParens tokens.qualifiers).count '*' := by
  obtain ⟨tokens, ht, hdepth, hq⟩ := indirectionOf_classify h
  refine ⟨tokens, ht, hq, hdepth, ?_⟩
  have hread := (indirections_read ht).1
  have hparts : indirections tokens.qualifiers = (outsideParens tokens.qualifiers).count '*' +
      (outsideParens tokens.qualifiers).count '[' := countP_isPointerMark _
  have hbrackets : (outsideParens tokens.qualifiers).count '[' +
      (insideParens tokens.qualifiers).count '[' = tokens.qualifiers.count '[' :=
    count_outside_add_inside (by decide) (by decide) 0 _
  omega

/-- A pointer that is returned as a value, a matrix that is passed as a pointer, and a text that is
taken for what it spells. -/
theorem indirections_of_classify_texts :
    (∃ o, classify Registry.standard "r".toList true "int const*".toList = .ok o ∧
      indirections "int const*".toList = 1 ∧ indirectionOf o = 0 ∧
      ∃ tokens, Tokens.read true "int const*".toList = .ok tokens ∧
        indirections "int const*".toList + (insideParens tokens.qualifiers).count '[' =
          indirectionOf o + (outsideParens tokens.qualifiers).count '*') ∧
    (∃ o, classify Registry.standard "r".toList false "CvMat m D(a[0])".toList = .ok o ∧
      indirections "CvMat m D(a[0])".toList = 0 ∧ indirectionOf o = 1) ∧
    ∃ o, classify Registry.standard "r".toList false "const CvMat* const m D(0)".toList = .ok o ∧
      indirections "const CvMat* const m D(0)".toList = indirectionOf o := by
  refine ⟨?_, ⟨_, rfl, rfl, rfl⟩, _, rfl, rfl⟩
  obtain ⟨o, ho, hi⟩ : ∃ o, classify Registry.standard "r".toList true "int const*".toList = .ok o ∧
      indirectionOf o = 0 := ⟨_, rfl, rfl⟩
  obtain ⟨tokens, ht, -, -, hbalance⟩ := indirections_of_classify ho
  exact ⟨o, ho, rfl, hi, tokens, ht, hbalance⟩

end HeaderBindings.Argument
