import HeaderBindings.Proofs.Argument.Appendix
import HeaderBindings.Proofs.Argument.Classification

/-!
# Annotations behind arguments

A default value is written behind an argument as an annotation, `CV_DEFAULT(..)`. Classification
sees of an argument no more than the outline of its tokens. An annotation is an appendix that gives
a name, so that it changes the outcome where the argument has none, or where the square brackets of
the value are counted.
-/
namespace HeaderBindings.Argument

open NativeType (Registry Shape)
open Text

/-! ### Outcomes that agree -/

/-- Two outcomes of classification that differ in trailing texts and in what rejections quote, or
in the cause of a rejection within its family. -/
inductive Agrees : Except Refusal (Option Descriptor) → Except Refusal (Option Descriptor) → Prop
  | void : Agrees (.ok none) (.ok none)
  | accepted (d : Descriptor) (q : Text) :
    Agrees (.ok (some d)) (.ok (some { d with qualifiers := q }))
  | rejected {r r' : Rejection} (h : r.cause.family = r'.cause.family) :
    Agrees (.error (.rejected r)) (.error (.rejected r'))
  | misuse (cause : Misuse) : Agrees (.error (.misuse cause)) (.error (.misuse cause))

theorem Agrees.refl (x : Except Refusal (Option Descriptor)) : Agrees x x := by
  rcases x with (r | cause) | _ | d
  · exact .rejected rfl
  · exact .misuse cause
  · exact .void
  · exact .accepted d d.qualifiers

theorem Agrees.symm {x y : Except Refusal (Option Descriptor)} (h : Agrees x y) : Agrees y x := by
  cases h with
  | void => exact .void
  | accepted d q => exact .accepted { d with qualifiers := q } d.qualifiers
  | rejected h => exact .rejected h.symm
  | misuse cause => exact .misuse cause

theorem Agrees.trans {x y z : Except Refusal (Option Descriptor)} (h : Agrees x y)
    (h' : Agrees y z) : Agrees x z := by
  cases h with
  | void => exact h'
  | accepted d q =>
    cases h' with
    | accepted _ q' => exact .accepted d q'
  | rejected h =>
    cases h' with
    | rejected h' => exact .rejected (h.trans h')
  | misuse cause => exact h'

theorem Agrees.of_parallel {x y : Except Refusal (Option Descriptor)}
    (h : Parallel (fun r r' => Agrees (.error r) (.error r'))
      (Option.Rel fun d d' => ∃ q, d' = { d with qualifiers := q }) x y) : Agrees x y := by
  cases h with
  | error h => exact h
  | ok h =>
    cases h with
    | none => exact .void
    | @some d _ h =>
      obtain ⟨q, rfl⟩ := h
      exact .accepted d q

section Classified
variable {registry : Registry} {returnName : Text}

/-- Classification sees of the tokens of an argument no more than their outline. -/
theorem agrees_of_outline {t u : Text} (h : Tokens.outline (Tokens.read false t) =
    Tokens.outline (Tokens.read false u)) :
    Agrees (classify registry returnName false t) (classify registry returnName false u) := by
  have hread : Parallel (fun r r' => Agrees (.error (.rejected r)) (.error (.rejected r')))
      (fun x y => y = { x with text := y.text, qualifiers := y.qualifiers })
      (Tokens.read false t) (Tokens.read false u) := by
    cases ht : Tokens.read false t with
    | error r =>
      cases hu : Tokens.read false u with
      | error r' =>
        rw [ht, hu] at h
        exact .error (.rejected (Except.error.inj h))
      | ok y =>
        rw [ht, hu] at h
        cases h
    | ok x =>
      cases hu : Tokens.read false u with
      | error r' =>
        rw [ht, hu] at h
        cases h
      | ok y =>
        rw [ht, hu] at h
        obtain ⟨hbase, hdepth, hconst, hname⟩ := Tokens.Outline.mk.inj (Except.ok.inj h)
        refine .ok ?_
        rw [hbase, hdepth, hconst, hname]
  have hcause (t u : Text) (r r' : Refusal) (h : Refusal.Requotes t u r r') :
      Agrees (.error r) (.error r') := by
    cases h with
    | rejected cause => exact .rejected rfl
    | misuse cause => exact .misuse cause
  refine .of_parallel ((parallel_classify hread fun x y hxy => ⟨hxy, hcause _ _⟩).mono
    (fun _ _ h => h) ?_)
  rintro _ _ - (⟨_, y, -, -, rfl⟩ | _)
  · exact .some ⟨y.qualifiers, rfl⟩
  · exact .none

theorem family_shapeOf {isReturn : Bool} {tokens : Tokens} {r : Rejection}
    (h : shapeOf registry isReturn tokens = .error (.rejected r)) :
    r.cause.family ≠ .missingToken := by
  unfold shapeOf reject at h
  split at h
  · cases h
    simp [Cause.family]
  · cases h
  · cases h
    simp [Cause.family]
  · split_ifs at h <;> cases h <;> simp [Cause.family]

/-- A token is missing for want of a type or a name, or of characters for the axes in the name. -/
theorem outline_of_missingToken {t : Text} {r : Rejection}
    (h : classify registry returnName false t = .error (.rejected r))
    (hr : r.cause.family = .missingToken) :
    Tokens.outline (Tokens.read false t) = .error .missingToken ∨
      ∃ tokens, Tokens.read false t = .ok tokens ∧
        (tokens.name.getD []).filter (· ≠ '_') = [] := by
  unfold classify at h
  rcases bind_eq_error_iff.mp h with hread | ⟨tokens, hread, h⟩
  · obtain ⟨r', hr', he⟩ := mapError_eq_error_iff.mp hread
    cases he
    rw [hr']
    exact .inl (congrArg Except.error hr)
  refine .inr ⟨tokens, mapError_eq_ok_iff.mp hread, ?_⟩
  rcases bind_eq_error_iff.mp h with hshape | ⟨shape, -, h⟩
  · exact absurd hr (family_shapeOf hshape)
  by_cases hv : shape.kind = .void
  · rw [if_pos hv] at h
    cases h
  rw [if_neg hv] at h
  rcases bind_eq_error_iff.mp h with haxes | ⟨axes, -, h⟩
  · obtain ⟨r', haxes, -⟩ := mapError_eq_error_iff.mp haxes
    unfold axesOf at haxes
    dsimp only at haxes
    split_ifs at haxes with _ he
    exact List.isEmpty_iff.mp he
  · cases h

/-- What is accepted alone and with square brackets behind it has none behind it. -/
theorem eq_zero_of_accepted {t u : Text} {n : ℕ} {o o' : Option Descriptor}
    (ht : classify registry returnName false t = .ok o)
    (hu : classify registry returnName false u = .ok o')
    (h : Tokens.outline (Tokens.read false u) = Tokens.outlineWith n t) : n = 0 := by
  obtain ⟨tokens, shape, hread, hshape, -⟩ := classify_eq_ok ht
  obtain ⟨tokens', shape', hread', hshape', -⟩ := classify_eq_ok hu
  have houtline := Tokens.outline_read t
  rw [hread] at houtline
  rw [hread'] at h
  obtain ⟨hbase, hdepth⟩ : tokens'.baseType = tokens.baseType ∧
      tokens'.pointerDepth = tokens.pointerDepth + n := by
    obtain ⟨s, name, q, hs, hq, he⟩ := Tokens.outlineWith_eq_ok houtline.symm
    obtain ⟨s', name', q', hs', hq', he'⟩ := Tokens.outlineWith_eq_ok h.symm
    obtain rfl := Option.some.inj (hs.symm.trans hs')
    obtain ⟨rfl, rfl⟩ := Prod.mk.inj (Option.some.inj (hq.symm.trans hq'))
    obtain ⟨hb, hd, -⟩ := Tokens.Outline.mk.inj he
    obtain ⟨hb', hd', -⟩ := Tokens.Outline.mk.inj he'
    exact ⟨hb'.trans hb.symm, by omega⟩
  obtain ⟨hfind, hmatrix, hvalue, -⟩ := shapeOf_eq_ok hshape
  obtain ⟨hfind', -, hvalue', -⟩ := shapeOf_eq_ok hshape'
  obtain rfl : shape' = shape := by
    rw [hbase, hfind] at hfind'
    exact (Option.some.inj (Except.ok.inj hfind')).symm
  by_cases hm : shape'.kind = .matrix
  · have hone := (hmatrix hm).2
    have hle := (Tokens.readFrom_of_read hread').pointerDepth
    omega
  · have hzero := hvalue' hm
    omega

end Classified

/-! ### Annotations -/

/-- The annotation of a default value. -/
def defaultMark (value : Text) : Text := "CV_DEFAULT(".toList ++ (value ++ [')'])

/-- An argument with a default value. -/
def annotate (t value : Text) : Text := t ++ ' ' :: defaultMark value

theorem readName?_defaultMark (value : Text) :
    readName? (defaultMark value) = some ("CV_DEFAULT".toList, '(' :: (value ++ [')'])) :=
  readName?_name_append (by decide : isName "CV_DEFAULT".toList = true) rfl

theorem isAppendix_defaultMark (value : Text) : Tokens.IsAppendix (defaultMark value) := by
  have hparen : IsTrimmed ('(' :: (value ++ [')'])) := isTrimmed_concat (by decide) (by decide) _
  have htrimmed : IsTrimmed (defaultMark value) := by
    have h := isTrimmed_concat (c := 'C') (e := ')') (by decide) (by decide)
      ("V_DEFAULT(".toList ++ value)
    rwa [List.append_assoc] at h
  have hconst : Tokens.dropConst? ("CV_DEFAULT".toList ++ '(' :: (value ++ [')'])) = none :=
    Tokens.dropConst?_name (by decide) (by decide) rfl
  change Tokens.dropConst? (defaultMark value) = none at hconst
  refine ⟨htrimmed, hconst, rfl, ?_⟩
  rw [Tokens.outline_read, Tokens.outlineWith, Tokens.readStart?, trim_eq_self htrimmed, hconst,
    Option.getD_none, readName?_defaultMark]
  have hstars : Tokens.readStars ('(' :: (value ++ [')'])) = (0, '(' :: (value ++ [')'])) := rfl
  dsimp only [Option.map_some]
  rw [hstars, trim_eq_self hparen]
  rfl

theorem isAppendix_brackets (n : ℕ) : Tokens.IsAppendix (List.replicate n '[') := by
  have htrimmed : IsTrimmed (List.replicate n '[') := isTrimmed_of_forall fun c hc => by
    rw [List.eq_of_mem_replicate hc]
    decide
  have hconst : Tokens.dropConst? (List.replicate n '[') = none := by cases n <;> rfl
  refine ⟨htrimmed, hconst, by cases n <;> rfl, ?_⟩
  rw [Tokens.outline_read, Tokens.outlineWith, Tokens.readStart?, trim_eq_self htrimmed, hconst]
  cases n <;> rfl

section Annotated
variable (registry : Registry) (returnName t value : Text)

theorem holds_defaultMark : Tokens.Holds (defaultMark value) (' ' :: defaultMark value) := by
  have ht := (isAppendix_defaultMark value).trimmed
  have hskip : skipBlanks (defaultMark value) = defaultMark value := rfl
  refine ⟨rfl, (skipBlanks_blanks_append (u := [' ']) (by decide) _).trans hskip, fun c hc => ?_⟩
  exact ht.2 c hc

/-- The square brackets of an annotation are those of the value. -/
theorem count_defaultMark : (defaultMark value).count '[' = value.count '[' := by
  have hopen (t : Text) : ("CV_DEFAULT(".toList ++ t).count '[' = t.count '[' := by simp
  have hclose : (value ++ [')']).count '[' = value.count '[' := by simp
  exact (hopen _).trans hclose

theorem classify_of_unnamed (h : Tokens.IsUnnamed t) :
    ∃ r, classify registry returnName false t = .error (.rejected r) ∧
      r.cause.family = .missingToken := by
  obtain ⟨s, hs, hr⟩ := h
  have houtline := Tokens.outline_read t
  rw [Tokens.outlineWith, hs] at houtline
  dsimp only at houtline
  rw [hr] at houtline
  cases hread : Tokens.read false t with
  | ok tokens =>
    rw [hread] at houtline
    cases houtline
  | error r =>
    rw [hread] at houtline
    refine ⟨r, ?_, Except.error.inj houtline⟩
    rw [classify, hread]
    rfl

theorem not_isUnnamed_of_accepted {o : Option Descriptor}
    (h : classify registry returnName false t = .ok o) : ¬Tokens.IsUnnamed t := by
  intro hu
  obtain ⟨r, hr, -⟩ := classify_of_unnamed registry returnName t hu
  rw [h] at hr
  cases hr

/-- An argument without a name takes that of the annotation, which misses nothing. -/
theorem not_agrees_of_unnamed (h : Tokens.IsUnnamed t) :
    ¬Agrees (classify registry returnName false t)
      (classify registry returnName false (annotate t value)) := by
  obtain ⟨s, hs, hr⟩ := h
  have ha := isAppendix_defaultMark value
  have hnamed := Tokens.readStart?_append_of_unnamed ha (holds_defaultMark value) hs hr
  obtain ⟨r, hplain, hfamily⟩ := classify_of_unnamed registry returnName t ⟨s, hs, hr⟩
  rw [hplain]
  intro hagrees
  generalize hc : classify registry returnName false (annotate t value) = x at hagrees
  cases hagrees with
  | @rejected _ r' h =>
    have hread := Tokens.outline_read (annotate t value)
    rw [Tokens.outlineWith, annotate, hnamed] at hread
    dsimp only at hread
    rw [readName?_defaultMark] at hread
    dsimp only at hread
    rcases outline_of_missingToken hc (h.symm.trans hfamily) with hnone | ⟨tokens, ht, haxis⟩
    · rw [annotate, hread] at hnone
      split_ifs at hnone
      cases hnone
    · rw [annotate] at ht
      rw [ht] at hread
      split_ifs at hread
      · cases hread
      · have hname := (Tokens.Outline.mk.inj (Except.ok.inj hread)).2.2.2
        rw [hname] at haxis
        revert haxis
        decide

theorem agrees_brackets (h : ¬Tokens.IsUnnamed t) :
    Agrees (classify registry returnName false (annotate t value))
      (classify registry returnName false (t ++ List.replicate (value.count '[') '[')) := by
  have ha := isAppendix_brackets (value.count '[')
  refine agrees_of_outline ?_
  have hbrackets : Tokens.Holds (List.replicate (value.count '[') '[')
      (List.replicate (value.count '[') '[') := by
    refine ⟨?_, ?_, ha.trimmed.2⟩
    · cases value.count '[' <;> rfl
    · cases value.count '[' <;> rfl
  rw [annotate, Tokens.outline_append (isAppendix_defaultMark value) (holds_defaultMark value) h,
    Tokens.outline_append ha hbrackets h, count_defaultMark, List.count_replicate_self]

/-- An annotation is as good as the square brackets that its value opens. -/
theorem agrees_annotate_iff :
    Agrees (classify registry returnName false t)
        (classify registry returnName false (annotate t value)) ↔
      ¬Tokens.IsUnnamed t ∧ Agrees (classify registry returnName false t)
        (classify registry returnName false (t ++ List.replicate (value.count '[') '[')) := by
  constructor
  · intro h
    have hn : ¬Tokens.IsUnnamed t := fun hu =>
      not_agrees_of_unnamed registry returnName t value hu h
    exact ⟨hn, h.trans (agrees_brackets registry returnName t value hn)⟩
  · rintro ⟨hn, h⟩
    exact h.trans (agrees_brackets registry returnName t value hn).symm

/-- An annotated argument is classified as it is without the annotation, trailing text apart, if and
only if it has a name and as many square brackets behind it as the value opens would change nothing
either. -/
theorem agrees_classify_annotate_iff :
    (Agrees (classify registry returnName false t)
        (classify registry returnName false (annotate t value)) ↔
      ¬Tokens.IsUnnamed t ∧ Agrees (classify registry returnName false t)
        (classify registry returnName false (t ++ List.replicate (value.count '[') '['))) ∧
    ('[' ∉ value → (Agrees (classify registry returnName false t)
        (classify registry returnName false (annotate t value)) ↔ ¬Tokens.IsUnnamed t)) ∧
    ∀ o, classify registry returnName false t = .ok o →
      (Agrees (.ok o) (classify registry returnName false (annotate t value)) ↔ '[' ∉ value) := by
  have hall := agrees_annotate_iff registry returnName t value
  have hfree : '[' ∉ value → (Agrees (classify registry returnName false t)
        (classify registry returnName false (annotate t value)) ↔ ¬Tokens.IsUnnamed t) := by
    intro hv
    rw [hall, List.count_eq_zero.mpr hv, List.replicate_zero, List.append_nil]
    exact and_iff_left (.refl _)
  refine ⟨hall, hfree, fun o ho => ⟨fun h hv => ?_, fun hv => ?_⟩⟩
  · obtain ⟨o', ho'⟩ : ∃ o', classify registry returnName false (annotate t value) = .ok o' := by
      generalize classify registry returnName false (annotate t value) = x at h
      cases h with
      | void => exact ⟨_, rfl⟩
      | accepted d q => exact ⟨_, rfl⟩
    have hread := Tokens.outline_append (isAppendix_defaultMark value) (holds_defaultMark value)
      (not_isUnnamed_of_accepted _ _ _ ho)
    have hzero := eq_zero_of_accepted ho ho' hread
    rw [count_defaultMark] at hzero
    exact List.count_eq_zero.mp hzero hv
  · rw [← ho]
    exact (hfree hv).mpr (not_isUnnamed_of_accepted _ _ _ ho)

end Annotated

/-- A subscript in the value is taken for indirection of the argument, a call is not, and an
argument without a name is bound under that of the annotation. -/
theorem agrees_classify_annotate_iff_values :
    (∃ o, classify Registry.standard "r".toList false "CvMat* m".toList = .ok o ∧
      ¬Agrees (.ok o)
        (classify Registry.standard "r".toList false (annotate "CvMat* m".toList "a[0]".toList))) ∧
    (∃ o, classify Registry.standard "r".toList false "CvMat* m".toList = .ok o ∧
      Agrees (.ok o) (classify Registry.standard "r".toList false
        (annotate "CvMat* m".toList "f(1, 2)".toList))) ∧
    ¬Agrees (classify Registry.standard "r".toList false "int const".toList)
      (classify Registry.standard "r".toList false (annotate "int const".toList "0".toList)) := by
  refine ⟨⟨_, rfl, fun h => ?_⟩, ⟨_, rfl, ?_⟩, fun h => ?_⟩
  · exact ((agrees_classify_annotate_iff _ _ _ _).2.2 _ rfl).mp h (by decide)
  · exact ((agrees_classify_annotate_iff _ _ _ _).2.2 _ rfl).mpr (by decide)
  · exact ((agrees_classify_annotate_iff _ _ _ _).1.mp h).1 ⟨_, rfl, rfl⟩

end HeaderBindings.Argument
