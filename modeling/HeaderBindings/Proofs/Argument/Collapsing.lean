import HeaderBindings.Proofs.Argument.Classification
import HeaderBindings.Proofs.Argument.Splitting
import HeaderBindings.Proofs.Text.Squeezing

/-!
# Declarations with other white space

Classification goes past blanks and stops at characters that are none. So an argument list may be
collapsed before: each stage takes the squeezed text as it takes the text, the same fragments are
found, squeezed, and the tokens of each differ in trailing text and in what a rejection quotes.
-/
namespace HeaderBindings.Argument

open NativeType (Registry Shape)
open Text

/-! ### What is kept of a text -/

def Rejection.collapsed (r : Rejection) : Rejection := { r with text := collapse r.text }

def Refusal.collapsed : Refusal → Refusal
  | .rejected r => .rejected r.collapsed
  | .misuse cause => .misuse cause

def Tokens.collapsed (tokens : Tokens) : Tokens :=
  { tokens with text := collapse tokens.text, qualifiers := collapse tokens.qualifiers }

def Descriptor.collapsed (d : Descriptor) : Descriptor :=
  { d with qualifiers := collapse d.qualifiers }

/-- Why classification failed, without the text that is quoted. -/
def Refusal.ground : Refusal → Cause ⊕ Misuse
  | .rejected r => .inl r.cause
  | .misuse cause => .inr cause

theorem Refusal.ground_collapsed (r : Refusal) : r.collapsed.ground = r.ground := by
  cases r <;> rfl

/-! ### Tokens -/

namespace Tokens

theorem dropConst?_squeeze (t : Text) : dropConst? (squeeze t) = (dropConst? t).map squeeze := by
  unfold dropConst?
  rw [dropPrefix?_squeeze (by decide)]
  cases dropPrefix? "const".toList t with
  | none => rfl
  | some r =>
    simp only [Option.map_some, Option.bind_eq_bind, Option.bind_some, atWord_squeeze,
      skipBlanks_squeeze]
    split_ifs <;> rfl

theorem readStars_squeeze (t : Text) :
    readStars (squeeze t) = ((readStars t).1, squeeze (readStars t).2) := by
  have hblank {c : Char} (hc : isBlank c = true) (r : Text) : readStars (c :: r) = readStars r := by
    rw [readStars, if_neg (ne_of_isBlank (by decide) hc).symm, if_pos hc]
  induction t using squeeze_induction with
  | nil => rfl
  | other c r hc ih =>
    rw [squeeze_cons_of_not hc, readStars, readStars, ih]
    split_ifs with hstar hnot
    · rfl
    · exact absurd hnot (by simp [hc])
    · rw [squeeze_cons_of_not hc]
  | inner c r hc hr ih => rw [squeeze_cons_of_inner hc hr, ih, hblank hc]
  | last c r hc hr ih => rw [squeeze_cons_of_last hc hr, hblank isBlank_space, ih, hblank hc]

theorem isTrimmed_dropConst? {t : Text} (ht : IsTrimmed t) :
    IsTrimmed ((dropConst? t).getD t) := by
  cases h : dropConst? t with
  | none => exact ht
  | some u =>
    obtain ⟨r, hr, hu⟩ := Option.bind_eq_some_iff.mp h
    split_ifs at hu
    cases hu
    have hsuffix : r <:+ t := ⟨_, (dropPrefix?_eq_some_iff.mp hr).symm⟩
    exact isTrimmed_skipBlanks ht hsuffix

theorem readName_squeeze (isReturn : Bool) (t : Text) {rest : Text} (hrest : IsTrimmed rest) :
    Parallel (fun r r' => r' = r.collapsed)
      (fun p p' => p' = (p.1, squeeze p.2) ∧ IsTrimmed p.2)
      (readName isReturn t rest) (readName isReturn (collapse t) (squeeze rest)) := by
  cases isReturn with
  | true => exact .ok ⟨rfl, hrest⟩
  | false =>
    rw [readName, readName, if_neg Bool.false_ne_true, if_neg Bool.false_ne_true,
      readName?_squeeze]
    cases readName? rest with
    | none => exact .error rfl
    | some p => exact .ok ⟨by rw [trim_squeeze], isTrimmed_trim p.2⟩

/-- A collapsed text has the same tokens, with collapsed texts. -/
theorem read_collapse (isReturn : Bool) (t : Text) :
    Parallel (fun r r' => r' = r.collapsed) (fun x x' => x' = x.collapsed)
      (read isReturn t) (read isReturn (collapse t)) := by
  have htrim : trim (collapse t) = squeeze (trim t) := by
    rw [collapse_eq, trim_squeeze, trim_trim]
  unfold read
  simp only [htrim, dropConst?_squeeze, Option.isSome_map, Option.getD_map, readName?_squeeze]
  cases readName? ((dropConst? (trim t)).getD (trim t)) with
  | none => exact .error rfl
  | some p =>
    simp only [Option.map_some, readStars_squeeze, trim_squeeze, dropConst?_squeeze,
      Option.getD_map]
    refine (readName_squeeze isReturn t (isTrimmed_dropConst? (isTrimmed_trim _))).bind ?_
    rintro ⟨name, q⟩ _ ⟨rfl, hq⟩
    simp only [count_squeeze (c := '[') (by decide)]
    have hcollapse : collapse q = squeeze q := by rw [collapse_eq, trim_eq_self hq]
    split_ifs
    · exact .error rfl
    · refine .ok ?_
      simp only [Tokens.collapsed, hcollapse]

end Tokens

/-! ### Fragments -/

section Pieces
variable {n : ℕ} {t : Text}

theorem pieces?_blank {c : Char} (hc : isBlank c = true) (n : ℕ) (r : Text) :
    pieces? n (c :: r) = (pieces? n r).map (onto c) := by
  obtain ⟨hdepth, hcomma⟩ := depth_blank hc
  exact pieces?_cons (fun h => hcomma h.1) (by rw [hdepth, add_zero]) r

/-- What a character does does not depend on what follows. -/
theorem pieces?_cons_cases (n : ℕ) (c : Char) :
    (∀ r, pieces? n (c :: r) = (pieces? 0 r).map ([] :: ·)) ∨ (∀ r, pieces? n (c :: r) = none) ∨
      ∃ m, ∀ r, pieces? n (c :: r) = (pieces? m r).map (onto c) := by
  by_cases hcomma : c = ',' ∧ n = 0
  · obtain ⟨rfl, rfl⟩ := hcomma
    exact .inl pieces?_comma
  rcases lt_or_ge (n + brackets.depth [c]) 0 with hneg | hpos
  · exact .inr (.inl (pieces?_stray hneg))
  · obtain ⟨m, hm⟩ := Int.eq_ofNat_of_zero_le hpos
    exact .inr (.inr ⟨m, pieces?_cons hcomma hm.symm⟩)

/-- The first piece begins with a blank where the text does. -/
theorem exists_of_pieces? {ps : List Text} (h : pieces? n t = some ps) :
    ∃ p qs, ps = p :: qs ∧ startsBlank p = startsBlank t := by
  obtain ⟨p, qs, rfl, hjoin, -⟩ := eq_join_of_pieces? h
  refine ⟨p, qs, rfl, ?_⟩
  rw [← hjoin, join_cons]
  cases p with
  | cons c p => rfl
  | nil => cases qs <;> rfl

theorem pieces?_squeeze (n : ℕ) (t : Text) :
    pieces? n (squeeze t) = (pieces? n t).map (List.map squeeze) := by
  induction t using squeeze_induction generalizing n with
  | nil =>
    rw [squeeze, pieces?]
    split_ifs <;> rfl
  | other c r hc ih =>
    have honto (ps : List Text) :
        onto c (ps.map squeeze) = (onto c ps).map squeeze := by
      cases ps with
      | nil => simp [onto, squeeze_eq_self (t := [c]) (by simpa using hc)]
      | cons p ps => exact congrArg (· :: ps.map squeeze) (squeeze_cons_of_not hc).symm
    rw [squeeze_cons_of_not hc]
    rcases pieces?_cons_cases n c with hcomma | hnone | ⟨m, hcons⟩
    · rw [hcomma, hcomma, ih]
      cases pieces? 0 r <;> rfl
    · rw [hnone, hnone]
      rfl
    · rw [hcons, hcons, ih]
      cases pieces? m r with
      | none => rfl
      | some ps => exact congrArg some (honto ps)
  | inner c r hc hr ih =>
    rw [squeeze_cons_of_inner hc hr, pieces?_blank hc, ih]
    cases hps : pieces? n r with
    | none => rfl
    | some ps =>
      obtain ⟨p, qs, rfl, hp⟩ := exists_of_pieces? hps
      simp [onto, squeeze_cons_of_inner hc (hp.trans hr)]
  | last c r hc hr ih =>
    rw [squeeze_cons_of_last hc hr, pieces?_blank isBlank_space, pieces?_blank hc, ih]
    cases hps : pieces? n r with
    | none => rfl
    | some ps =>
      obtain ⟨p, qs, rfl, hp⟩ := exists_of_pieces? hps
      simp [onto, squeeze_cons_of_last hc (hp.trans hr)]

theorem pieces?_blanks_append {u : Text} (hu : ∀ c ∈ u, isBlank c = true) :
    (pieces? n (u ++ t)).map (List.map trim) = (pieces? n t).map (List.map trim) := by
  induction u with
  | nil => rfl
  | cons c u ih =>
    obtain ⟨hc, hu⟩ := List.forall_mem_cons.mp hu
    rw [List.cons_append, pieces?_blank hc, ← ih hu]
    cases hps : pieces? n (u ++ t) with
    | none => rfl
    | some ps =>
      obtain ⟨p, qs, rfl, -⟩ := exists_of_pieces? hps
      have htrim : trim (c :: p) = trim p := trim_blanks_append (u := [c]) (by simpa using hc) p
      simp [onto, htrim]

/-- A character before the first piece is before what is left of that when its end is trimmed. -/
theorem map_dropRightWhile_onto (c : Char) (ps : List Text) :
    (onto c ps).map (dropRightWhile isBlank) =
      (onto c (ps.map (dropRightWhile isBlank))).map (dropRightWhile isBlank) := by
  cases ps with
  | nil => rfl
  | cons p ps =>
    have hp : dropRightWhile isBlank (c :: p) =
        dropRightWhile isBlank (c :: dropRightWhile isBlank p) := by
      obtain ⟨v, hsplit, hv⟩ := exists_dropRightWhile_append isBlank p
      conv_lhs => rw [hsplit, ← List.cons_append, dropRightWhile_append_blanks hv]
    simp [onto, hp, dropRightWhile_dropRightWhile]

theorem pieces?_append_blanks {v : Text} (hv : ∀ c ∈ v, isBlank c = true) :
    (pieces? n (t ++ v)).map (List.map (dropRightWhile isBlank)) =
      (pieces? n t).map (List.map (dropRightWhile isBlank)) := by
  have honto (c : Char) (x : Option (List Text)) :
      (x.map (onto c)).map (List.map (dropRightWhile isBlank)) =
        ((x.map (List.map (dropRightWhile isBlank))).map (onto c)).map
          (List.map (dropRightWhile isBlank)) := by
    cases x with
    | none => rfl
    | some ps => exact congrArg some (map_dropRightWhile_onto c ps)
  induction t generalizing n with
  | nil =>
    induction v with
    | nil => rfl
    | cons c v ih =>
      obtain ⟨hc, hv⟩ := List.forall_mem_cons.mp hv
      rw [List.nil_append] at ih ⊢
      rw [pieces?_blank hc, honto, ih hv, ← honto]
      by_cases hn : n = 0
      · simp [pieces?, hn, onto, dropRightWhile, hc]
      · simp [pieces?, hn]
  | cons c t ih =>
    rw [List.cons_append]
    rcases pieces?_cons_cases n c with hcomma | hnone | ⟨m, hcons⟩
    · have hempty (x : Option (List Text)) :
          (x.map ([] :: ·)).map (List.map (dropRightWhile isBlank)) =
            (x.map (List.map (dropRightWhile isBlank))).map ([] :: ·) := by
        cases x <;> rfl
      rw [hcomma, hcomma, hempty, hempty, ih]
    · rw [hnone, hnone]
    · rw [hcons, hcons, honto, ih, ← honto]

theorem pieces?_trim : (pieces? n (trim t)).map (List.map trim) =
    (pieces? n t).map (List.map trim) := by
  have hdrop (x : Option (List Text)) : x.map (List.map trim) =
      (x.map (List.map (dropRightWhile isBlank))).map (List.map trim) := by
    cases x <;> simp [Function.comp_def, trim_dropRightWhile]
  obtain ⟨u, v, ht, hu, hv⟩ := exists_blanks_trim t
  conv_rhs => rw [ht, pieces?_blanks_append hu, hdrop, pieces?_append_blanks hv, ← hdrop]

/-- The trimmed pieces of a collapsed text are the collapsed pieces of the text. -/
theorem pieces?_collapse (t : Text) :
    (pieces? 0 (collapse t)).map (List.map trim) =
      ((pieces? 0 t).map (List.map trim)).map (List.map squeeze) := by
  rw [collapse_eq, pieces?_squeeze, ← pieces?_trim]
  cases pieces? 0 (trim t) <;> simp [Function.comp_def, trim_squeeze]

end Pieces

theorem closesAtEnd_squeeze (n : ℕ) (t : Text) : closesAtEnd n (squeeze t) = closesAtEnd n t := by
  have hblank {c : Char} (hc : isBlank c = true) (n : ℕ) (r : Text) :
      closesAtEnd n (c :: r) = closesAtEnd n r := by
    rw [closesAtEnd, if_neg (ne_of_isBlank (by decide) hc).symm,
      if_neg (ne_of_isBlank (by decide) hc).symm]
  induction t using squeeze_induction generalizing n with
  | nil => rfl
  | other c r hc ih =>
    have hempty : (squeeze r).isEmpty = r.isEmpty := by
      rw [Bool.eq_iff_iff, List.isEmpty_iff, List.isEmpty_iff, squeeze_eq_nil_iff]
    rw [squeeze_cons_of_not hc, closesAtEnd, closesAtEnd, ih, ih, ih, hempty]
  | inner c r hc hr ih => rw [squeeze_cons_of_inner hc hr, ih, hblank hc]
  | last c r hc hr ih => rw [squeeze_cons_of_last hc hr, hblank isBlank_space, ih, hblank hc]

theorem isGroup_squeeze (t : Text) : isGroup (squeeze t) = isGroup t := by
  simp only [isGroup, closesAtEnd_squeeze, head?_squeeze_eq_iff (c := '(') (by decide)]

/-- The arguments among squeezed pieces are the squeezed arguments. -/
theorem argumentsAmong_of_map_trim {ps qs : List Text}
    (h : qs.map trim = (ps.map trim).map squeeze) :
    argumentsAmong qs = (argumentsAmong ps).map collapse := by
  have hkeep : ∀ p, decide (squeeze p ≠ [] ∧ ¬IsGroup (squeeze p)) =
      decide (p ≠ [] ∧ ¬IsGroup p) := by
    intro p
    simp [← isGroup_iff, isGroup_squeeze]
  rw [argumentsAmong, h, List.filter_map, argumentsAmong]
  simp only [Function.comp_def, hkeep]
  refine List.map_congr_left fun p hp => ?_
  obtain ⟨q, -, rfl⟩ := List.mem_map.mp (List.mem_of_mem_filter hp)
  rw [collapse_eq, trim_trim]

/-- A collapsed argument list has the collapsed arguments. -/
theorem split_collapse (t : Text) :
    Parallel (fun r r' => r' = r.collapsed) (fun ts ts' => ts' = ts.map collapse)
      (split t) (split (collapse t)) := by
  have hpieces := pieces?_collapse t
  cases hps : pieces? 0 t with
  | none =>
    rw [hps, Option.map_none, Option.map_none, Option.map_eq_none_iff] at hpieces
    rw [split, split, hps, hpieces]
    exact .error rfl
  | some ps =>
    rw [hps, Option.map_some, Option.map_some] at hpieces
    obtain ⟨qs, hqs, htrim⟩ := Option.map_eq_some_iff.mp hpieces
    have hvoid : (argumentsAmong ps).map collapse = ["void".toList] ↔
        argumentsAmong ps = ["void".toList] := by
      rw [List.map_eq_singleton_iff]
      constructor
      · rintro ⟨a, ha, hcollapse⟩
        have hmem : a ∈ argumentsAmong ps := by simp [ha]
        have htrimmed := (isArgumentText_of_mem (isCut_of_pieces? hps) hmem).trimmed
        rw [collapse_eq, trim_eq_self htrimmed, squeeze_eq_iff (by decide)] at hcollapse
        rw [ha, hcollapse]
      · intro ha
        exact ⟨_, ha, by rw [collapse_eq]; decide⟩
    rw [(isCut_of_pieces? hps).split, (isCut_of_pieces? hqs).split,
      argumentsAmong_of_map_trim htrim]
    simp only [hvoid]
    split_ifs
    · exact .ok rfl
    · exact .ok rfl

/-! ### Single texts -/

/-- A collapsed text is classified as the text is, with a collapsed trailing text. -/
theorem classify_collapse (registry : Registry) (returnName : Text) (isReturn : Bool) (t : Text) :
    Parallel (fun r r' => r' = r.collapsed) (fun o o' => o' = o.map Descriptor.collapsed)
      (classify registry returnName isReturn t)
      (classify registry returnName isReturn (collapse t)) := by
  have hread : Parallel (fun r r' => Refusal.rejected r' = (Refusal.rejected r).collapsed)
      (fun x y => y = x.collapsed) (Tokens.read isReturn t) (Tokens.read isReturn (collapse t)) :=
    (Tokens.read_collapse isReturn t).mono (fun _ _ h => congrArg Refusal.rejected h)
      (fun _ _ _ h => h)
  refine (parallel_classify hread ?_).mono (fun _ _ h => h) ?_
  · rintro tokens _ rfl
    refine ⟨rfl, ?_⟩
    rintro _ _ (cause | cause)
    · rfl
    · rfl
  · rintro _ _ - (⟨tokens, _, rfl, hq, rfl⟩ | _)
    · simp only [Option.map_some, Descriptor.collapsed, hq, Tokens.collapsed]
    · rfl

/-! ### Whole declarations -/

section Whole
variable (registry : Registry) (returnName returnType arguments : Text)

theorem isReturn_of_classify {isReturn : Bool} {t : Text} {o : Option Descriptor}
    (h : classify registry returnName isReturn t = .ok o) : ∀ d ∈ o, d.isReturn = isReturn :=
  fun d hd => (isClassified_of_classify h d hd).isReturn_eq

theorem map_filterMap_of_forall₂ {f : Descriptor → Descriptor}
    {found found' : List (Option Descriptor)}
    (h : List.Forall₂ (fun o o' => o' = Option.map f o) found found') :
    found'.filterMap id = (found.filterMap id).map f := by
  induction h with
  | nil => rfl
  | @cons o _ _ _ ho _ ih =>
    subst ho
    cases o with
    | none => exact ih
    | some d => exact congrArg (f d :: ·) ih

/-- Collapsed arguments beside return types that are classified alike. -/
theorem parallel_classifyAll {E : Refusal → Refusal → Prop} (hE : ∀ r, E r r.collapsed)
    {f : Descriptor → Descriptor} (hf : ∀ d, d.isReturn = false → f d = d.collapsed) {type : Text}
    (hslot : Parallel E (fun o o' => o' = o.map f) (classify registry returnName true returnType)
      (classify registry returnName true type)) :
    Parallel E (fun ds ds' => ds' = ds.map f)
      (classifyAll registry returnName returnType arguments)
      (classifyAll registry returnName type (collapse arguments)) := by
  have hfragment (t : Text) : Parallel E (fun o o' => o' = o.map f)
      (classify registry returnName false t) (classify registry returnName false (collapse t)) := by
    refine (classify_collapse registry returnName false t).mono ?_ ?_
    · rintro r _ rfl
      exact hE r
    · rintro o _ ho rfl
      cases o with
      | none => rfl
      | some d => exact congrArg some (hf d (isReturn_of_classify _ _ ho d rfl)).symm
  rw [classifyAll_eq, classifyAll_eq]
  refine hslot.bind ?_
  rintro slot _ rfl
  refine ((split_collapse arguments).mapError (F := E) ?_).bind ?_
  · rintro r _ rfl
    exact hE (.rejected r)
  rintro ts _ rfl
  have hall : List.Forall₂ (fun t t' => Parallel E (fun o o' => o' = o.map f)
      (classify registry returnName false t) (classify registry returnName false t'))
      ts (ts.map collapse) := by
    rw [List.forall₂_map_right_iff]
    exact List.forall₂_same.mpr fun t _ => hfragment t
  refine (Parallel.mapM hall).bind ?_
  intro found found' hfound
  exact .ok (map_filterMap_of_forall₂ (.cons rfl hfound))

/-- White space in an argument list changes no more than the trailing texts of the arguments and
what a rejection quotes. The result is not changed, and if the return type is collapsed as well, all
that changes is that texts are collapsed. -/
theorem classifyAll_collapse :
    Parallel (fun r r' => r'.ground = r.ground)
        (fun ds ds' => ds' = ds.map fun d => if d.isReturn then d else d.collapsed)
        (classifyAll registry returnName returnType arguments)
        (classifyAll registry returnName returnType (collapse arguments)) ∧
      Parallel (fun r r' => r' = r.collapsed) (fun ds ds' => ds' = ds.map Descriptor.collapsed)
        (classifyAll registry returnName returnType arguments)
        (classifyAll registry returnName (collapse returnType) (collapse arguments)) := by
  constructor
  · refine parallel_classifyAll _ _ _ _ Refusal.ground_collapsed (fun d hd => by simp [hd]) ?_
    cases ho : classify registry returnName true returnType with
    | error r => exact .error rfl
    | ok o =>
      refine .ok ?_
      cases o with
      | none => rfl
      | some d => simp [isReturn_of_classify _ _ ho d rfl]
  · exact parallel_classifyAll (E := fun r r' => r' = r.collapsed) _ _ _ _ (fun _ => rfl)
      (fun _ _ => rfl) (classify_collapse registry returnName true returnType)

end Whole

/-- The trailing text of a result is not collapsed with the argument list. -/
theorem qualifiers_slot_spaces : ∃ d e,
    classifyAll Registry.standard "retval".toList "int a  b".toList "int  x".toList = .ok [d, e] ∧
      collapse "int  x".toList = "int x".toList ∧
      classifyAll Registry.standard "retval".toList "int a  b".toList "int x".toList =
        .ok [d, e] ∧
      d.isReturn = true ∧ d.qualifiers = "a  b".toList ∧ d ≠ d.collapsed := by
  have hcollapse : collapse "int  x".toList = "int x".toList := by
    rw [collapse_eq]
    decide
  have hslot : collapse "a  b".toList = "a b".toList := by
    rw [collapse_eq]
    decide
  have hread : ∃ d e, classifyAll Registry.standard "retval".toList "int a  b".toList
      "int  x".toList = .ok [d, e] ∧ classifyAll Registry.standard "retval".toList
        "int a  b".toList "int x".toList = .ok [d, e] ∧
      d.isReturn = true ∧ d.qualifiers = "a  b".toList :=
    ⟨_, _, rfl, rfl, rfl, rfl⟩
  obtain ⟨d, e, hds, hds', hreturn, hq⟩ := hread
  refine ⟨d, e, hds, hcollapse, hds', hreturn, hq, fun h => ?_⟩
  have hsame : d.qualifiers = collapse d.qualifiers := congrArg Descriptor.qualifiers h
  rw [hq, hslot] at hsame
  revert hsame
  decide

end HeaderBindings.Argument
