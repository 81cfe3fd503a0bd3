import HeaderBindings.Proofs.Argument.RoundTrip

/-!
# Axes that matrices share

The axes of a matrix are named after it without its underscores. So two matrices have no axis in
common or both, and they have both exactly if their names differ in underscores at most. Nothing
else ties the shape of one matrix to that of another.
-/
namespace HeaderBindings.Argument

open NativeType (Registry)
open Text

/-! ### Two axes -/

namespace Descriptor

/-- Two axes, named after the descriptor. -/
def HasNamedAxes (d : Descriptor) : Prop :=
  d.axes = [.named (axisName d.name ++ ['0']), .named (axisName d.name ++ ['1'])]

section Two
variable {d e : Descriptor} (hd : d.HasNamedAxes) (he : e.HasNamedAxes)
include hd

theorem mem_axes_iff {a : Axis} :
    a ∈ d.axes ↔ ∃ c ∈ ['0', '1'], a = .named (axisName d.name ++ [c]) := by
  rw [hd]
  simp

include he

theorem axes_eq_of_axisName_eq (h : axisName d.name = axisName e.name) : d.axes = e.axes := by
  rw [hd, he, h]

theorem axisName_eq_of_mem {a : Axis} (ha : a ∈ d.axes) (hb : a ∈ e.axes) :
    axisName d.name = axisName e.name := by
  obtain ⟨c, -, rfl⟩ := (mem_axes_iff hd).mp ha
  obtain ⟨c', -, h⟩ := (mem_axes_iff he).mp hb
  exact (List.append_inj' (Axis.named.inj h) rfl).1

theorem disjoint_axes_iff : d.axes.Disjoint e.axes ↔ axisName d.name ≠ axisName e.name := by
  constructor
  · intro hdisjoint h
    have hmem : .named (axisName d.name ++ ['0']) ∈ d.axes := by simp [mem_axes_iff hd]
    exact hdisjoint hmem (axes_eq_of_axisName_eq hd he h ▸ hmem)
  · intro h a ha hb
    exact h (axisName_eq_of_mem hd he ha hb)

end Two
end Descriptor

/-! ### Shapes -/

/-- Sizes can be given to the axes so that every matrix has the shape that is asked of it. An axis
of fixed size keeps it, and a named one may have any, even if its name has digits only. -/
def Allows (ds : List Descriptor) (shape : Descriptor → ℤ × ℤ) : Prop :=
  ∃ size : Axis → ℤ, (∀ n, size (.size n) = n) ∧
    ∀ d ∈ ds, d.isMatrix = true → d.axes.map size = [(shape d).1, (shape d).2]

/-- Matrices whose names differ in underscores at most are asked to have the same shape. -/
def TreatsAlike (ds : List Descriptor) (shape : Descriptor → ℤ × ℤ) : Prop :=
  ∀ d ∈ ds, ∀ e ∈ ds, d.isMatrix = true → e.isMatrix = true →
    axisName d.name = axisName e.name → shape d = shape e

/-- The size of an axis is asked of the first matrix that has it. -/
def sizeAmong (ds : List Descriptor) (shape : Descriptor → ℤ × ℤ) : Axis → ℤ
  | .size n => n
  | .named t =>
    match ds.find? fun d => d.isMatrix && decide (.named t ∈ d.axes) with
    | some d => if t = axisName d.name ++ ['0'] then (shape d).1 else (shape d).2
    | none => 0

section Shapes
variable {ds : List Descriptor} (h : ∀ d ∈ ds, d.isMatrix = true → d.HasNamedAxes)
  {shape : Descriptor → ℤ × ℤ}
include h

theorem sizeAmong_named (hshape : TreatsAlike ds shape) {d : Descriptor} (hd : d ∈ ds)
    (hm : d.isMatrix = true) {c : Char} (hc : c ∈ ['0', '1']) :
    sizeAmong ds shape (.named (axisName d.name ++ [c])) =
      if c = '0' then (shape d).1 else (shape d).2 := by
  have hmem : .named (axisName d.name ++ [c]) ∈ d.axes :=
    (Descriptor.mem_axes_iff (h d hd hm)).mpr ⟨c, hc, rfl⟩
  rw [sizeAmong]
  split
  · next e hfound =>
    have he := List.mem_of_find?_eq_some hfound
    obtain ⟨hem, hin⟩ : e.isMatrix = true ∧ .named (axisName d.name ++ [c]) ∈ e.axes := by
      simpa using List.find?_some (p := fun e : Descriptor => e.isMatrix && _) hfound
    have hname : axisName d.name = axisName e.name :=
      Descriptor.axisName_eq_of_mem (h d hd hm) (h e he hem) hmem hin
    rw [← hshape d hd e he hm hem hname, ← hname]
    simp
  · next hnone =>
    have hno := List.find?_eq_none.mp hnone d hd
    simp [hm, hmem] at hno

/-- A choice of shapes is possible exactly if it treats matrices with the same axes alike. -/
theorem allows_iff_treatsAlike : Allows ds shape ↔ TreatsAlike ds shape := by
  constructor
  · rintro ⟨size, -, hsize⟩ d hd e he hdm hem hname
    have hsame : [(shape d).1, (shape d).2] = [(shape e).1, (shape e).2] := by
      rw [← hsize d hd hdm, ← hsize e he hem,
        Descriptor.axes_eq_of_axisName_eq (h d hd hdm) (h e he hem) hname]
    simp only [List.cons.injEq, and_true] at hsame
    exact Prod.ext hsame.1 hsame.2
  · intro hshape
    refine ⟨sizeAmong ds shape, fun _ => rfl, fun d hd hm => ?_⟩
    rw [h d hd hm, List.map_cons, List.map_singleton, sizeAmong_named h hshape hd hm (by simp),
      sizeAmong_named h hshape hd hm (by simp)]
    simp

end Shapes

/-! ### Accepted declarations -/

/-- Matrices among some descriptors share axes as their names without underscores tell. -/
structure SharesAxesByName (ds : List Descriptor) : Prop where
  disjoint_iff : ∀ d ∈ ds, ∀ e ∈ ds, d.isMatrix = true → e.isMatrix = true →
    (d.axes.Disjoint e.axes ↔ axisName d.name ≠ axisName e.name)
  axes_eq : ∀ d ∈ ds, ∀ e ∈ ds, d.isMatrix = true → e.isMatrix = true →
    axisName d.name = axisName e.name → d.axes = e.axes
  allows_iff : ∀ shape, Allows ds shape ↔ TreatsAlike ds shape

theorem hasNamedAxes_of_classifyAll {registry : Registry} {returnName returnType arguments : Text}
    {ds : List Descriptor} (h : classifyAll registry returnName returnType arguments = .ok ds) :
    ∀ d ∈ ds, d.isMatrix = true → d.HasNamedAxes := by
  intro d hd hm
  obtain ⟨isReturn, hclassified⟩ := exists_isClassified h d hd
  exact (hclassified.matrix hm).2.2

/-- Matrices of an accepted declaration share no axis unless their names differ in underscores at
most, and then their shapes are the same. -/
theorem sharesAxesByName_classifyAll {registry : Registry}
    {returnName returnType arguments : Text} {ds : List Descriptor}
    (h : classifyAll registry returnName returnType arguments = .ok ds) : SharesAxesByName ds where
  disjoint_iff d hd e he hdm hem :=
    Descriptor.disjoint_axes_iff (hasNamedAxes_of_classifyAll h d hd hdm)
      (hasNamedAxes_of_classifyAll h e he hem)
  axes_eq d hd e he hdm hem :=
    Descriptor.axes_eq_of_axisName_eq (hasNamedAxes_of_classifyAll h d hd hdm)
      (hasNamedAxes_of_classifyAll h e he hem)
  allows_iff _ := allows_iff_treatsAlike (hasNamedAxes_of_classifyAll h)

/-- A result and three matrices, two of which differ in an underscore. -/
theorem sharesAxesByName_underscore : ∃ ds,
    classifyAll Registry.standard "retval".toList "int".toList
      "CvMat* a_b, CvMat* ab, const CvMat* c".toList = .ok ds ∧
    (ds.filter (·.isMatrix)).map (axisName ·.name) = ["ab".toList, "ab".toList, "c".toList] ∧
    SharesAxesByName ds := by
  have hread : ∃ ds, classifyAll Registry.standard "retval".toList "int".toList
      "CvMat* a_b, CvMat* ab, const CvMat* c".toList = .ok ds ∧
      (ds.filter (·.isMatrix)).map (axisName ·.name) =
        ["ab".toList, "ab".toList, "c".toList] := ⟨_, rfl, by decide⟩
  obtain ⟨ds, hds, hnames⟩ := hread
  exact ⟨ds, hds, hnames, sharesAxesByName_classifyAll hds⟩

/-- Different names, and yet the same axes and the same shape. -/
theorem shared_axes_underscore : ∃ d e,
    classifyAll Registry.standard "retval".toList "void".toList "CvMat* a_b, CvMat* ab".toList =
      .ok [d, e] ∧
    d.isMatrix = true ∧ e.isMatrix = true ∧ d.name ≠ e.name ∧ ¬d.axes.Disjoint e.axes ∧
    ∀ shape, Allows [d, e] shape → shape d = shape e := by
  have hread : ∃ d e, classifyAll Registry.standard "retval".toList "void".toList
      "CvMat* a_b, CvMat* ab".toList = .ok [d, e] ∧ d.isMatrix = true ∧ e.isMatrix = true ∧
      d.name ≠ e.name ∧ d.axes = e.axes ∧ d.axes ≠ [] :=
    ⟨_, _, rfl, rfl, rfl, by decide, rfl, by decide⟩
  obtain ⟨d, e, hds, hd, he, hname, haxes, hne⟩ := hread
  refine ⟨d, e, hds, hd, he, hname, fun hdisjoint => ?_, ?_⟩
  · obtain ⟨a, ha⟩ := List.exists_mem_of_ne_nil _ hne
    exact hdisjoint ha (haxes ▸ ha)
  · rintro shape ⟨size, -, hsize⟩
    have hsame := hsize d (by simp) hd
    rw [haxes, hsize e (by simp) he] at hsame
    simp only [List.cons.injEq, and_true] at hsame
    exact Prod.ext hsame.1.symm hsame.2.symm

end HeaderBindings.Argument
