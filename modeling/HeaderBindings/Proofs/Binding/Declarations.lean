import HeaderBindings.Proofs.Argument.Classification
import HeaderBindings.Proofs.Binding.Account
import HeaderBindings.Proofs.Text.Numerals

/-!
# Declarations never end a run

Where the export mark can be searched for, the prefix and the aliases are strings, and the return
name and the sizes of vectors have texts, whatever stands in a declaration, it is bound or it is
skipped.
-/
namespace HeaderBindings

theorem Datum.mem_of_lookup? {α : Type} {key : Datum} {v : α} {es : List (Datum × α)}
    (h : lookup? key es = some v) : ∃ k, (k, v) ∈ es := by
  induction es with
  | nil => cases h
  | cons e es ih =>
    rw [lookup?] at h
    split_ifs at h
    · cases h
      exact ⟨_, List.mem_cons_self⟩
    · obtain ⟨k, hk⟩ := ih h
      exact ⟨k, List.mem_cons_of_mem _ hk⟩

namespace NativeType

/-- Every alias stands for a string. -/
def Registry.IsTextual (r : Registry) : Prop := ∀ e ∈ r.aliases, ∃ w, e.2.wide? = some w

/-- Every vector has a length that can be written. -/
def Registry.IsWritable (r : Registry) : Prop :=
  ∀ v ∈ r.vectors, Text.isWritable v.length = true

theorem builtin?_ne_misuse (t : Text) (cause : Misuse) : builtin? t ≠ .error (.misuse cause) := by
  unfold builtin?
  repeat' split
  all_goals simp

theorem Registry.IsTextual.resolve {r : Registry} (h : r.IsTextual) (base : Text) :
    ∃ w, (r.resolve base).wide? = some w := by
  unfold Registry.resolve
  cases ha : Datum.lookup? (.text base) r.aliases with
  | none => exact ⟨.ofText base, rfl⟩
  | some d =>
    obtain ⟨k, hk⟩ := Datum.mem_of_lookup? ha
    exact h _ hk

theorem Registry.IsTextual.find?_ne {r : Registry} (h : r.IsTextual) (base : Text)
    (cause : Misuse) : r.find? base ≠ .error (.misuse cause) := by
  obtain ⟨w, hw⟩ := h.resolve base
  unfold Registry.find?
  split
  · simp
  · split
    · next t _ =>
      have hb := builtin?_ne_misuse t cause
      cases hs : builtin? t with
      | error e => simpa [bind, Except.bind, hs] using hb
      | ok s => cases s <;> simp [bind, Except.bind]
    · simp
    · next htext hbroken =>
      cases hd : r.resolve base with
      | text t => exact absurd hd (htext t)
      | broken b => exact absurd hd (hbroken b)
      | _ =>
        rw [hd] at hw
        cases hw

theorem length_of_sizedName? {t bits : Text} {length : Nat}
    (h : sizedName? t = some (length, bits)) : length ≤ 9 := by
  obtain ⟨r, -, h⟩ := Option.bind_eq_some_iff.mp h
  obtain ⟨r, -, h⟩ := Option.bind_eq_some_iff.mp h
  split at h
  · obtain ⟨d, hd, h⟩ := Option.bind_eq_some_iff.mp h
    dsimp only at h
    split_ifs at h
    cases h
    exact Text.digitValue?_le hd
  · cases h

/-- Built-in types are short. -/
theorem length_of_builtin? {t : Text} {s : Shape} (h : builtin? t = .ok (some s)) :
    s.length.natAbs ≤ 9 := by
  unfold builtin? at h
  cases hsized : sizedName? t with
  | some p =>
    obtain ⟨length, bits⟩ := p
    have hlength := length_of_sizedName? hsized
    rw [hsized] at h
    dsimp only at h
    split_ifs at h
    all_goals cases h
    all_goals first | exact hlength | decide
  | none =>
    rw [hsized] at h
    dsimp only at h
    split_ifs at h
    all_goals cases h
    all_goals decide

/-- The shapes of types have lengths that can be written. -/
theorem Registry.IsWritable.find? {r : Registry} (h : r.IsWritable) {base : Text} {s : Shape}
    (hs : r.find? base = .ok (some s)) : Text.isWritable s.length = true := by
  have hvector {w : WideText} (hs : r.vector? w = some s) : Text.isWritable s.length = true := by
    obtain ⟨v, hv, rfl⟩ := Option.map_eq_some_iff.mp hs
    exact h v (List.mem_of_find?_eq_some hv)
  unfold Registry.find? at hs
  split_ifs at hs
  · cases hs
    exact Text.isWritable_of_natAbs_le (by decide)
  · split at hs
    · obtain ⟨found, hfound, hs⟩ := bind_eq_ok_iff.mp hs
      cases found with
      | some shape =>
        cases hs
        exact Text.isWritable_of_natAbs_le (length_of_builtin? hfound)
      | none => exact hvector (Except.ok.inj hs)
    · exact hvector (Except.ok.inj hs)
    · cases hs

end NativeType

/-! ### Declarations -/

namespace Argument
open NativeType (Registry)

variable {registry : Registry}

theorem shapeOf_ne_misuse (h : registry.IsTextual) (isReturn : Bool) (tokens : Tokens)
    (cause : Misuse) : shapeOf registry isReturn tokens ≠ .error (.misuse cause) := by
  have hf := h.find?_ne tokens.baseType
  unfold shapeOf
  split
  · simp [reject]
  · next c hc => exact absurd hc (hf c)
  · simp [reject]
  · repeat' split
    all_goals simp [reject]

theorem classify_ne_misuse (h : registry.IsTextual) (returnName : Text) (isReturn : Bool)
    (t : Text) (cause : Misuse) :
    classify registry returnName isReturn t ≠ .error (.misuse cause) := by
  unfold classify
  cases Tokens.read isReturn t with
  | error r => simp [Except.mapError, bind, Except.bind]
  | ok tokens =>
    have hs := shapeOf_ne_misuse h isReturn tokens cause
    cases hshape : shapeOf registry isReturn tokens with
    | error e => simpa [Except.mapError, bind, Except.bind, hshape] using hs
    | ok shape =>
      simp only [Except.mapError, bind, Except.bind, hshape]
      split
      · simp
      · cases axesOf tokens shape <;> simp

/-- A declaration is classified or rejected. -/
theorem classifyAll_ne_misuse (h : registry.IsTextual) (returnName returnType arguments : Text)
    (cause : Misuse) :
    classifyAll registry returnName returnType arguments ≠ .error (.misuse cause) := by
  intro he
  rcases bind_eq_error_iff.mp he with hm | ⟨found, -, hok⟩
  · obtain ⟨p, hp, hpe⟩ := exists_of_mapM_eq_error hm
    rcases List.mem_cons.mp hp with rfl | hp
    · exact classify_ne_misuse h _ _ _ _ hpe
    · split at hp
      · obtain rfl := List.mem_singleton.mp hp
        cases hpe
      · obtain ⟨t, -, rfl⟩ := List.mem_map.mp hp
        exact classify_ne_misuse h _ _ _ _ hpe
  · cases hok

theorem mem_of_mem_classifiedBefore {os : List (Text × Except Refusal (Option Descriptor))}
    {p : Text × Descriptor} (h : p ∈ classifiedBefore os) : (p.1, .ok (some p.2)) ∈ os := by
  fun_induction classifiedBefore os with
  | case1 t d rest ih =>
    rcases List.mem_cons.mp h with rfl | h
    · exact List.mem_cons_self
    · exact List.mem_cons_of_mem _ (ih h)
  | case2 t rest ih => exact List.mem_cons_of_mem _ (ih h)
  | case3 => cases h

/-- A descriptor of a declaration is that of one of its texts. -/
theorem isClassified_of_mem_classifiedBefore {returnName returnType arguments : Text}
    {p : Text × Descriptor}
    (h : p ∈ classifiedBefore (outcomes registry returnName returnType arguments)) :
    ∃ isReturn, p.2.IsClassified registry returnName isReturn := by
  rcases List.mem_cons.mp (mem_of_mem_classifiedBefore h) with hp | hp
  · exact ⟨true, isClassified_of_classify (Prod.mk.inj hp).2.symm p.2 rfl⟩
  · split at hp
    · obtain hp := List.mem_singleton.mp hp
      cases (Prod.mk.inj hp).2
    · obtain ⟨t, -, hp⟩ := List.mem_map.mp hp
      exact ⟨false, isClassified_of_classify (Prod.mk.inj hp).2 p.2 rfl⟩

end Argument

namespace Binding
open Header (Declaration)

/-- A generator whose mark can be searched for, whose strings are strings and whose numbers can be
written. -/
structure Generator.IsTextual (g : Generator) : Prop where
  exportMark : g.exportMark.isMark = true
  libraryPrefix : ∃ w, g.rules.libraryPrefix.wide? = some w
  returnName : g.rules.isReturnNameWritable = true
  types : g.rules.types.IsTextual
  sizes : g.rules.types.IsWritable

namespace Generator
variable {g : Generator}

/-- The descriptors of a declaration have texts. -/
theorem IsTextual.canWrite (hg : g.IsTextual) {returnType arguments : Text} :
    (Argument.classifiedBefore (Argument.outcomes g.rules.types g.rules.returnName returnType
      arguments)).all g.rules.canWrite = true := by
  rw [List.all_eq_true]
  intro p hp
  obtain ⟨isReturn, hclassified⟩ := Argument.isClassified_of_mem_classifiedBefore hp
  have haxes : p.2.axes.all Axis.isWritable = true := by
    cases hm : p.2.isMatrix with
    | true =>
      rw [(hclassified.matrix hm).2.2]
      rfl
    | false =>
      obtain ⟨shape, hshape, haxes⟩ := hclassified.value hm
      simp [haxes, Axis.isWritable, hg.sizes.find? hshape]
  simp [Rules.canWrite, hg.returnName, haxes]

theorem IsTextual.bind_ne (hg : g.IsTextual) (source : Text) (d : Declaration)
    (cause : Misuse) : (g.rules.bind source d).result ≠ .error (.misuse cause) := by
  obtain ⟨w, hw⟩ := hg.libraryPrefix
  rcases shortName_cases g.rules d.name with ⟨_, short, -, -, hs⟩ | ⟨_, -, hs⟩ | ⟨hno, -⟩
  · have hc := Argument.classifyAll_ne_misuse hg.types g.rules.returnName d.returnType
      d.arguments cause
    simp only [Rules.bind, hs, if_pos hg.canWrite]
    cases hall : Argument.classifyAll g.rules.types g.rules.returnName d.returnType
      d.arguments with
    | error e => simpa [bind, Except.bind, hall] using hc
    | ok ds => simp [bind, Except.bind]
  · simp [Rules.bind, hs]
  · rw [hw] at hno
    cases hno

/-- No declaration ends a run. -/
theorem IsTextual.failure_addDeclaration (hg : g.IsTextual) (source : Text) (c : Context)
    (d : Declaration) : (g.addDeclaration source c d).failure = none := by
  obtain ⟨w, hw⟩ := hg.libraryPrefix
  rcases shortName_cases g.rules d.name with ⟨_, short, -, -, hs⟩ | ⟨_, -, hs⟩ | ⟨hno, -⟩
  · simp only [addDeclaration, hs]
    split
    · rfl
    · rfl
    · next cause hb => exact absurd hb (hg.bind_ne source d cause)
  · simp only [addDeclaration, hs]
  · rw [hw] at hno
    cases hno

theorem failure_steps {α : Type} {step : Context → α → Progress}
    (h : ∀ c a, (step c a).failure = none) (c : Context) (as : List α) :
    (Progress.steps step c as).failure = none := by
  induction as generalizing c with
  | nil => rfl
  | cons a as ih =>
    rw [Progress.steps]
    split
    · exact ih _
    · exact h c a

theorem IsTextual.failure_addBindings (hg : g.IsTextual) (header text : Text)
    (c : Context) : (g.addBindings header text c).failure = none := by
  unfold addBindings
  split
  · exact failure_steps (hg.failure_addDeclaration header) c _
  · exact if_pos hg.exportMark

theorem IsTextual.exists_trialsOf (hg : g.IsTextual) (header text : Text) :
    ∃ ts, g.trialsOf header text = .ok ts := by
  have hm := metBy_addBindings g Account.shownBy_empty header text
  have hf := hg.failure_addBindings header text .empty
  generalize g.addBindings header text .empty = p at hm hf
  cases ht : g.trialsOf header text with
  | ok ts => exact ⟨ts, rfl⟩
  | error e =>
    rw [ht] at hm
    cases hm
    cases hf

end Generator

end Binding
end HeaderBindings
