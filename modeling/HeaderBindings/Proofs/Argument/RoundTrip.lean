import HeaderBindings.Proofs.Argument.Classification
import HeaderBindings.Proofs.Parameter.Reading
import HeaderBindings.Proofs.Text.Numerals

/-!
# Reading the declaration string of classified arguments

With the built-in types alone, whatever is classified has a name and axes that are words, so its
declaration string is read again. It is read as it was written unless an argument that is a matrix
has a name of underscores and digits only: its axes are then taken for sizes.
-/
namespace HeaderBindings.Argument

open NativeType (Element Kind Registry Shape)
open Text

/-! ### Built-in types -/

theorem le_of_sizedName? {t bits : Text} {length : ℕ}
    (h : NativeType.sizedName? t = some (length, bits)) : length ≤ 9 := by
  unfold NativeType.sizedName? at h
  simp only [Option.bind_eq_bind, Option.bind_eq_some_iff] at h
  obtain ⟨r, -, r', -, h⟩ := h
  split at h
  · simp only [Option.bind_eq_some_iff, Option.ite_none_right_eq_some, Option.some.injEq,
      Prod.mk.injEq] at h
    obtain ⟨d, hd, -, rfl, -⟩ := h
    exact digitValue?_le hd
  · cases h

/-- A shape whose length is one decimal digit. -/
def IsSmall (s : Shape) : Prop := 0 ≤ s.length ∧ s.length ≤ 9

theorem isSmall_builtin? {t : Text} {s : Shape} (h : NativeType.builtin? t = .ok (some s)) :
    IsSmall s := by
  unfold NativeType.builtin? at h
  cases hs : NativeType.sizedName? t with
  | none =>
    simp only [hs] at h
    split_ifs at h <;> cases h <;> exact ⟨by decide, by decide⟩
  | some p =>
    have hl : (p.1 : ℤ) ≤ 9 := by exact_mod_cast le_of_sizedName? (hs.trans rfl)
    simp only [hs] at h
    split_ifs at h <;> cases h
    · exact ⟨by decide, by decide⟩
    · exact ⟨by decide, by decide⟩
    · exact ⟨by decide, by decide⟩
    · exact ⟨by decide, by decide⟩
    · exact ⟨Int.natCast_nonneg _, hl⟩
    · exact ⟨Int.natCast_nonneg _, hl⟩

theorem isSmall_find? {base : Text} {s : Shape} (h : Registry.standard.find? base = .ok (some s)) :
    IsSmall s := by
  unfold Registry.find? at h
  split_ifs at h with hm
  · cases h
    exact ⟨by decide, by decide⟩
  · split at h
    · next t _ =>
      cases hb : NativeType.builtin? t with
      | error e => rw [hb] at h; cases h
      | ok s' =>
        cases s' with
        | none => rw [hb] at h; cases h
        | some s' =>
          rw [hb] at h
          cases h
          exact isSmall_builtin? hb
    · cases h
    · cases h

/-! ### Classified arguments -/

/-- A text without its underscores, after which the axes of a matrix are named. -/
def axisName (name : Text) : Text := name.filter (· ≠ '_')

/-- What classification makes of an argument with the built-in types. -/
structure Descriptor.IsRegular (d : Descriptor) : Prop where
  name : isName d.name = true
  matrix : d.isMatrix = true → axisName d.name ≠ [] ∧
    d.axes = [.named (axisName d.name ++ ['0']), .named (axisName d.name ++ ['1'])]
  other : d.isMatrix = false → ∃ n : ℕ, n ≤ 9 ∧ d.axes = [.size n]

theorem isRegular_of_isClassified {returnName : Text} (hr : isName returnName = true)
    {isReturn : Bool} {d : Descriptor}
    (h : d.IsClassified Registry.standard returnName isReturn) : d.IsRegular where
  name := by
    have hname := h.name
    cases isReturn with
    | true => exact hname ▸ hr
    | false => exact hname
  matrix hm := (h.matrix hm).2
  other hm := by
    obtain ⟨shape, hfind, haxes⟩ := h.value hm
    obtain ⟨h₀, h₉⟩ := isSmall_find? hfind
    obtain ⟨n, hn⟩ := Int.eq_ofNat_of_zero_le h₀
    rw [hn] at h₉ haxes
    exact ⟨n, by exact_mod_cast h₉, haxes⟩

theorem isRegular_classifyAll {returnName returnType arguments : Text}
    (hr : isName returnName = true) {ds : List Descriptor}
    (h : classifyAll Registry.standard returnName returnType arguments = .ok ds) :
    ∀ d ∈ ds, d.IsRegular := by
  intro d hd
  obtain ⟨isReturn, hd⟩ := exists_isClassified h d hd
  exact isRegular_of_isClassified hr hd

/-! ### Axes that are read again -/

theorem readAxis_named {t : Text} (h : t ≠ []) :
    Parameter.readAxis (Axis.named t).write = .ok (.named t) ↔ t.all isDigitLike = false := by
  rw [Axis.write, Parameter.readAxis]
  cases ht : t.all isDigitLike with
  | false => simp
  | true =>
    cases readInt? t <;> simp [h, Except.map]

namespace Descriptor
variable {d : Descriptor}

theorem isWordText_axisName (h : isName d.name = true) : IsWordText (axisName d.name) :=
  fun c hc => IsWordText.of_isName h c (List.mem_filter.mp hc).1

theorem IsRegular.isPlain (h : d.IsRegular) : d.toParameter.IsPlain := by
  cases hm : d.isMatrix with
  | true =>
    obtain ⟨-, ha⟩ := h.matrix hm
    have hw := isWordText_axisName h.name
    have hplain {c : Char} (hc : isWord c = true) :
        (Axis.named (axisName d.name ++ [c])).IsPlain := by
      refine .of_isWordText fun e he => ?_
      rcases List.mem_append.mp he with he | he
      · exact hw e he
      · exact List.mem_singleton.mp he ▸ hc
    refine ⟨h.name, ?_, by simp [ha, writeAxes, join, Axis.write]⟩
    rw [ha]
    simp only [List.forall_mem_cons]
    exact ⟨hplain (by decide), hplain (by decide), by simp⟩
  | false =>
    obtain ⟨n, -, ha⟩ := h.other hm
    refine ⟨h.name, ?_, by simp [ha, writeAxes, join, Parameter.write_size_ne_nil]⟩
    rw [ha]
    simp only [List.forall_mem_cons]
    exact ⟨Parameter.isPlain_size n, by simp⟩

/-- The axes are read again unless those of a matrix are taken for sizes. -/
theorem IsRegular.reads_iff (h : d.IsRegular) :
    (∀ a ∈ d.axes, Parameter.readAxis a.write = .ok a) ↔
      (d.isMatrix = true → (axisName d.name).all isDigitLike = false) := by
  cases hm : d.isMatrix with
  | true =>
    obtain ⟨-, ha⟩ := h.matrix hm
    have h0 : isDigitLike '0' = true := by decide
    have h1 : isDigitLike '1' = true := by decide
    simp only [ha, List.forall_mem_cons, forall_const]
    rw [readAxis_named (by simp), readAxis_named (by simp)]
    simp [h0, h1]
  | false =>
    obtain ⟨n, h₉, ha⟩ := h.other hm
    have hlt : n < 10 ^ maxDigits :=
      h₉.trans_lt ((by decide : 9 < 10 ^ 1).trans_le (Nat.pow_le_pow_right (by decide) (by decide)))
    simp [ha, Parameter.readAxis_size hlt]

end Descriptor

/-- The declaration string of classified arguments gives their names, roles, element types and axes
again, exactly if no matrix has a name of underscores and digits only. -/
theorem readAll_signature_eq_iff {returnType arguments : Text} {ds : List Descriptor}
    (h : classifyAll Registry.standard "retval".toList returnType arguments = .ok ds) :
    Parameter.readAll (Descriptor.signature ds) = .ok (ds.map (·.toParameter)) ↔
      ∀ d ∈ ds, d.isMatrix = true → (axisName d.name).all isDigitLike = false := by
  have hreg : ∀ d ∈ ds, d.IsRegular := isRegular_classifyAll rfl h
  have hplain : ∀ p ∈ ds.map (·.toParameter), p.IsPlain := by
    intro p hp
    obtain ⟨d, hd, rfl⟩ := List.mem_map.mp hp
    exact (hreg d hd).isPlain
  rw [Descriptor.signature, Parameter.readAll_writeAll_eq_iff hplain, List.forall_mem_map]
  exact forall₂_congr (fun d hd => (hreg d hd).reads_iff)

/-- A matrix whose name is read with its axes taken for sizes, and one that is read again. -/
theorem readAll_signature_digits : ∃ ds es,
    classifyAll Registry.standard "retval".toList "void".toList "CvMat* _1".toList = .ok ds ∧
      Parameter.readAll (Descriptor.signature ds) ≠ .ok (ds.map (·.toParameter)) ∧
    classifyAll Registry.standard "retval".toList "int".toList "CvMat* a_1".toList = .ok es ∧
      Parameter.readAll (Descriptor.signature es) = .ok (es.map (·.toParameter)) := by
  have hd : ∃ ds, classifyAll Registry.standard "retval".toList "void".toList
      "CvMat* _1".toList = .ok ds ∧
      ∃ d ∈ ds, d.isMatrix = true ∧ (axisName d.name).all isDigitLike = true :=
    ⟨_, rfl, _, List.mem_cons_self, rfl, rfl⟩
  have he : ∃ es, classifyAll Registry.standard "retval".toList "int".toList
      "CvMat* a_1".toList = .ok es ∧
      ∀ d ∈ es, d.isMatrix = true → (axisName d.name).all isDigitLike = false :=
    ⟨_, rfl, by decide⟩
  obtain ⟨ds, hds, d, hmem, hm, hdig⟩ := hd
  obtain ⟨es, hes, hall⟩ := he
  refine ⟨ds, es, hds, fun hread => ?_, hes, (readAll_signature_eq_iff hes).mpr hall⟩
  have hfalse := (readAll_signature_eq_iff hds).mp hread d hmem hm
  rw [hdig] at hfalse
  cases hfalse

end HeaderBindings.Argument
