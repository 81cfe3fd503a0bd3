import HeaderBindings.Proofs.Argument.Classification
import HeaderBindings.Proofs.Call.Execution
import HeaderBindings.Proofs.Call.References

/-!
# Agreement of call code and declaration string

The call code of a declaration and its declaration string are written from the same descriptors. The
code makes one native call in each block, with one operand for each argument. A matrix that has an
element is given with the size, the element type and the buffer that the declaration string says, an
empty one as a null pointer, and all that the code refers to is declared there.
-/
namespace HeaderBindings

open Argument (Descriptor)
open Call
open NativeType (Element Registry)
open Text

/-! ### Descriptors -/

namespace Argument

/-- A descriptor of symbols. Only a matrix, which is not returned, has axes with names: two. -/
structure Descriptor.IsPlain (d : Descriptor) : Prop where
  name : IsSymbol d.name
  type : IsSymbol d.type
  matrix : d.isMatrix = true → d.isReturn = false ∧
    ∃ rows columns, IsSymbol rows ∧ IsSymbol columns ∧ d.axes = [.named rows, .named columns]
  value : d.isMatrix = false → ∃ length, d.axes = [.size length]

theorem isPlain_of_isClassified {registry : Registry} {returnName : Text} {isReturn : Bool}
    (hr : isReturn = true → IsSymbol returnName) {d : Descriptor}
    (h : d.IsClassified registry returnName isReturn) : d.IsPlain := by
  have hname : IsSymbol d.name := by
    have hcases := h.name
    cases isReturn with
    | true => exact hcases ▸ hr rfl
    | false => exact .of_isName hcases
  refine ⟨hname, .of_isName h.type, fun hm => ?_, fun hm => ?_⟩
  · obtain ⟨hfalse, hne, haxes⟩ := h.matrix hm
    have haxis : IsSymbol (d.name.filter (· ≠ '_')) :=
      ⟨hne, fun c hc => hname.forall_mem c (List.mem_of_mem_filter hc)⟩
    exact ⟨h.isReturn_eq.trans hfalse, _, _, haxis.append ⟨by decide, by decide⟩,
      haxis.append ⟨by decide, by decide⟩, haxes⟩
  · obtain ⟨shape, -, haxes⟩ := h.value hm
    exact ⟨shape.length, haxes⟩

end Argument

namespace Call

/-! ### What is to be called -/

/-- The arguments of a declaration: all but the result. -/
def arguments (ds : List Descriptor) : List Descriptor := ds.filter (!·.isReturn)

def matrices (ds : List Descriptor) : List Descriptor := ds.filter (·.isMatrix)

/-- The variables for the matrices of a declaration. -/
def variableNames (ds : List Descriptor) : List Text :=
  (matrices ds).flatMap fun d => [matrixVariable d.name, pointerVariable d.name]

/-- What is passed for an argument: the pointer of a matrix, or a value. -/
def Passed.ofDescriptor (d : Descriptor) : Passed :=
  if d.isMatrix then .pointer (pointerVariable d.name) else .value (slotOf d)

/-- The call of a function with the arguments of a declaration, for its result if it has one. -/
def NativeCall.ofDescriptors (function : Text) (ds : List Descriptor) : NativeCall :=
  ⟨(ds.find? (·.isReturn)).map slotOf, function, (arguments ds).map .ofDescriptor⟩

/-- The instantiation whose matrices have an explicit element type. -/
def ofElement? : Element → Option Instantiation
  | .int => some .long
  | .float => some .float
  | .double => some .double
  | .native => none

/-- The header over the buffer of a matrix whose axes are given, in a block. -/
def Header.ofDescriptor (i : Instantiation) (d : Descriptor) (rows columns : Axis) : Header where
  columns := columns.write
  rows := rows.write
  type := ((ofElement? d.element).getD i).matrixType.toList
  buffer := d.name

/-- What a function is given for an argument: for a matrix without elements a null pointer, for any
other a header over its buffer, and for all else the value. -/
def Given.ofDescriptor (size : Text → ℕ) (i : Instantiation) (d : Descriptor) : Given :=
  match d.isMatrix, d.axes with
  | true, [rows, columns] =>
    if size rows.write ≠ 0 ∧ size columns.write ≠ 0 then
      .matrix (.ofDescriptor i d rows columns)
    else .null
  | _, _ => .value (slotOf d)

/-! ### Plans -/

section Plan
variable {ds : List Descriptor} {function : Text}

theorem filterMap_eq_map_filter {α β : Type} {f : α → Option β} {p : α → Bool} {g : α → β}
    {as : List α} (h : ∀ a ∈ as, f a = if p a then some (g a) else none) :
    as.filterMap f = (as.filter p).map g := by
  rw [← List.filterMap_eq_map, List.filterMap_filter]
  exact List.filterMap_congr h

/-- The operands are those of the arguments, and the target is that of the result. -/
theorem ofExpression_ofDescriptors {slot : Option Descriptor} {rest : List Descriptor}
    (hds : ds = slot.toList ++ rest) (hs : ∀ d ∈ slot, d.isReturn = true)
    (hr : ∀ d ∈ rest, d.isReturn = false) :
    NativeCall.ofExpression (Plan.ofDescriptors function ds).call = .ofDescriptors function ds := by
  have hoperands : (ds.filterMap Operand.ofDescriptor?).map Passed.ofOperand =
      (arguments ds).map .ofDescriptor := by
    rw [List.map_filterMap]
    refine filterMap_eq_map_filter fun d _ => ?_
    unfold Operand.ofDescriptor? Passed.ofDescriptor
    cases d.isReturn <;> cases d.isMatrix <;> rfl
  have htarget : (ds.filter (·.isReturn)).getLast? = ds.find? (·.isReturn) := by
    have hrest : rest.filter (·.isReturn) = [] := by simpa using hr
    have hnone : rest.find? (·.isReturn) = none := by simpa using hr
    subst hds
    cases slot with
    | none => simp [hrest, hnone]
    | some d => simp [hrest, hs d rfl]
  rw [NativeCall.ofExpression, NativeCall.ofDescriptors, ← hoperands, ← htarget]
  rfl

/-- The step for a matrix has its axes. -/
theorem ofDescriptor?_of_isMatrix {d : Descriptor} (h : d.IsPlain) (hm : d.isMatrix = true) :
    ∃ rows columns, IsSymbol rows ∧ IsSymbol columns ∧ d.axes = [.named rows, .named columns] ∧
      MatrixStep.ofDescriptor? d = some ⟨d.name, rows, columns, d.element⟩ := by
  obtain ⟨hreturn, rows, columns, hrows, hcolumns, haxes⟩ := h.matrix hm
  refine ⟨rows, columns, hrows, hcolumns, haxes, ?_⟩
  rw [MatrixStep.ofDescriptor?, hreturn, hm, haxes]
  rfl

theorem ofDescriptor?_of_not_isMatrix {d : Descriptor} (hm : d.isMatrix = false) :
    MatrixStep.ofDescriptor? d = none := by
  rw [MatrixStep.ofDescriptor?, hm, Bool.not_false, Bool.or_true, if_pos rfl]

theorem mem_steps {m : MatrixStep} (h : ∀ d ∈ ds, d.isMatrix = true → d.IsPlain)
    (hm : m ∈ (Plan.ofDescriptors function ds).steps) : ∃ d ∈ ds, d.isMatrix = true ∧
      ∃ rows columns, IsSymbol rows ∧ IsSymbol columns ∧ d.axes = [.named rows, .named columns] ∧
        m = ⟨d.name, rows, columns, d.element⟩ := by
  obtain ⟨d, hd, hstep⟩ := List.mem_filterMap.mp hm
  cases hmatrix : d.isMatrix with
  | false =>
    rw [ofDescriptor?_of_not_isMatrix hmatrix] at hstep
    cases hstep
  | true =>
    obtain ⟨rows, columns, hrows, hcolumns, haxes, hof⟩ :=
      ofDescriptor?_of_isMatrix (h d hd hmatrix) hmatrix
    rw [hof] at hstep
    exact ⟨d, hd, hmatrix, rows, columns, hrows, hcolumns, haxes, (Option.some.inj hstep).symm⟩

theorem isPlain_of_mem_steps {m : MatrixStep} (h : ∀ d ∈ ds, d.isMatrix = true → d.IsPlain)
    (hm : m ∈ (Plan.ofDescriptors function ds).steps) : m.IsPlain := by
  obtain ⟨d, hd, hmatrix, rows, columns, hrows, hcolumns, -, rfl⟩ := mem_steps h hm
  exact ⟨(h d hd hmatrix).name, hrows, hcolumns⟩

theorem map_name_steps (h : ∀ d ∈ ds, d.isMatrix = true → d.IsPlain) :
    (Plan.ofDescriptors function ds).steps.map (·.name) = (matrices ds).map (·.name) := by
  have hsteps : (ds.filterMap MatrixStep.ofDescriptor?).map (·.name) = _ := List.map_filterMap
  refine hsteps.trans (filterMap_eq_map_filter fun d hd => ?_)
  cases hm : d.isMatrix with
  | false => rw [ofDescriptor?_of_not_isMatrix hm]; rfl
  | true =>
    obtain ⟨rows, columns, -, -, -, hof⟩ := ofDescriptor?_of_isMatrix (h d hd hm) hm
    rw [hof]
    rfl

theorem names_steps (h : ∀ d ∈ ds, d.isMatrix = true → d.IsPlain) :
    (Plan.ofDescriptors function ds).steps.flatMap MatrixStep.names = variableNames ds := by
  have hnames (ms : List MatrixStep) : ms.flatMap MatrixStep.names =
      (ms.map (·.name)).flatMap fun n => [matrixVariable n, pointerVariable n] := by
    rw [List.flatMap_map]
    rfl
  rw [hnames, map_name_steps h, List.flatMap_map]
  rfl

theorem isGeneric_iff (h : ∀ d ∈ ds, d.isMatrix = true → d.IsPlain) :
    (Plan.ofDescriptors function ds).isGeneric = true ↔ matrices ds ≠ [] := by
  have hnames := @map_name_steps ds function h
  have hempty : (Plan.ofDescriptors function ds).steps = [] ↔ matrices ds = [] := by
    rw [← List.map_eq_nil_iff, hnames, List.map_eq_nil_iff]
  rw [Plan.isGeneric, Bool.not_eq_true', List.isEmpty_eq_false_iff, Ne, hempty]

theorem slot_of_ofDescriptor? {d : Descriptor} {o : Operand}
    (h : Operand.ofDescriptor? d = some o) : o.slot = slotOf d := by
  unfold Operand.ofDescriptor? at h
  split_ifs at h <;> cases h <;> rfl

theorem isPlain_slotOf {d : Descriptor} (h : d.IsPlain) : (slotOf d).IsPlain := ⟨h.name, h.type⟩

theorem isPlain_ofDescriptors (h : ∀ d ∈ ds, d.IsPlain) (hf : IsSymbol function) :
    (Plan.ofDescriptors function ds).IsPlain where
  steps m hm := isPlain_of_mem_steps (fun d hd _ => h d hd) hm
  function := hf
  operands o ho := by
    obtain ⟨d, hd, hof⟩ := List.mem_filterMap.mp ho
    rw [slot_of_ofDescriptor? hof]
    exact isPlain_slotOf (h d hd)
  target s hs := by
    obtain ⟨d, hd, rfl⟩ := Option.map_eq_some_iff.mp hs
    exact isPlain_slotOf (h d (List.mem_of_mem_filter (List.mem_of_getLast? hd)))

/-- What the plan names, the declaration string declares. -/
theorem names_ofDescriptors (h : ∀ d ∈ ds, d.IsPlain) :
    (Plan.ofDescriptors function ds).Names (ds.map (·.name))
      (ds.flatMap fun d => d.axes.map Axis.write) where
  steps m hm := by
    obtain ⟨d, hd, -, rows, columns, -, -, haxes, rfl⟩ := mem_steps (fun d hd _ => h d hd) hm
    have hmem {a : Text} (ha : a ∈ [rows, columns]) :
        a ∈ ds.flatMap fun d => d.axes.map Axis.write :=
      List.mem_flatMap.mpr ⟨d, hd, by simpa [haxes, Axis.write] using ha⟩
    exact ⟨List.mem_map_of_mem hd, hmem List.mem_cons_self,
      hmem (List.mem_cons_of_mem _ List.mem_cons_self)⟩
  operands o ho := by
    obtain ⟨d, hd, hof⟩ := List.mem_filterMap.mp ho
    rw [slot_of_ofDescriptor? hof]
    exact List.mem_map_of_mem hd
  target s hs := by
    obtain ⟨d, hd, rfl⟩ := Option.map_eq_some_iff.mp hs
    exact List.mem_map_of_mem (List.mem_of_mem_filter (List.mem_of_getLast? hd))

end Plan

/-! ### Runs -/

section Run
variable {ds : List Descriptor} {function : Text}

theorem matrixType_eq (m : MatrixStep) (i : Instantiation) :
    m.matrixType i = ((ofElement? m.element).getD i).matrixType := by
  unfold MatrixStep.matrixType
  cases m.element <;> rfl

/-- What a function is given for an argument, in a block that prepared the matrices. -/
theorem receive_ofDescriptor (h : ∀ d ∈ ds, d.IsPlain) (hn : ((matrices ds).map (·.name)).Nodup)
    (size : Text → ℕ) (i : Instantiation) {d : Descriptor} (hd : d ∈ ds) :
    receive ((Plan.ofDescriptors function ds).steps.flatMap (MatrixStep.attached size i))
      (.ofDescriptor d) = some (.ofDescriptor size i d) := by
  cases hm : d.isMatrix with
  | false =>
    rw [Passed.ofDescriptor, Given.ofDescriptor, hm]
    rfl
  | true =>
    obtain ⟨rows, columns, -, -, haxes, hof⟩ := ofDescriptor?_of_isMatrix (h d hd) hm
    have hstep : ⟨d.name, rows, columns, d.element⟩ ∈ (Plan.ofDescriptors function ds).steps :=
      List.mem_filterMap.mpr ⟨d, hd, hof⟩
    have hnames : ((Plan.ofDescriptors function ds).steps.map (·.name)).Nodup :=
      (map_name_steps fun d hd _ => h d hd).symm ▸ hn
    have hreceive := @receive_pointer size i _ hnames _ hstep
    rw [Passed.ofDescriptor, hm, if_pos rfl, Given.ofDescriptor, hm, haxes]
    refine hreceive.trans (congrArg some ?_)
    by_cases hs : size rows ≠ 0 ∧ size columns ≠ 0
    · simp [MatrixStep.given, MatrixStep.isFilled, MatrixStep.header, Header.ofDescriptor,
        matrixType_eq, Axis.write, hs]
    · simp [MatrixStep.given, MatrixStep.isFilled, Axis.write, hs]

theorem matrices_eq (h : ∀ d ∈ ds, d.IsPlain) :
    matrices ds = (arguments ds).filter (·.isMatrix) := by
  rw [matrices, arguments, List.filter_filter]
  refine List.filter_congr fun d hd => ?_
  cases hm : d.isMatrix with
  | false => rfl
  | true => rw [((h d hd).matrix hm).1]; rfl

/-- The code makes one call in each block. -/
theorem execute_code (h : ∀ d ∈ ds, d.IsPlain) (hf : IsSymbol function)
    (hn : ((matrices ds).map (·.name)).Nodup) (hm : matrices ds ≠ [])
    (hcall : NativeCall.ofExpression (Plan.ofDescriptors function ds).call =
      .ofDescriptors function ds) (size : Text → ℕ) (is : List Instantiation) :
    execute size ((Plan.ofDescriptors function ds).code is) = some (is.map fun i =>
      ⟨some [i.letter], variableNames ds, .ofDescriptors function ds,
        (arguments ds).map (.ofDescriptor size i)⟩) := by
  have hread := Plan.readAll?_code (isPlain_ofDescriptors h hf)
    ((isGeneric_iff fun d hd _ => h d hd).mpr hm) is
  have hnames : ((Plan.ofDescriptors function ds).steps.map (·.name)).Nodup :=
    (map_name_steps fun d hd _ => h d hd).symm ▸ hn
  have hpassed : (Plan.ofDescriptors function ds).call.operands.map Passed.ofOperand =
      (arguments ds).map .ofDescriptor := (NativeCall.mk.inj hcall).2.2
  have hreceive (i : Instantiation) :
      ((Plan.ofDescriptors function ds).call.operands.map Passed.ofOperand).mapM
        (receive ((Plan.ofDescriptors function ds).steps.flatMap (MatrixStep.attached size i))) =
      some ((arguments ds).map (.ofDescriptor size i)) := by
    rw [hpassed]
    exact mapM_map_eq_some fun d hd =>
      receive_ofDescriptor h hn size i (List.mem_of_mem_filter hd)
  have hrun := run_blocks hnames hreceive is []
  rw [execute, hread]
  simp only [Option.bind_eq_bind, Option.bind_some, State.start, hrun, Plan.performed,
    names_steps fun d hd _ => h d hd, hcall]
  rfl

end Run

/-! ### Declaration strings -/

theorem mem_ofInt {n : ℤ} {c : Char} (h : c ∈ ofInt n) : mayBeIdentifier c = true ∨ c = '-' := by
  have hdigit {k : ℕ} (hk : c ∈ ofNat k) : mayBeIdentifier c = true := by
    simp [mayBeIdentifier, Char.isAlphanum, isDigit_ofNat c hk]
  cases n with
  | ofNat n => exact .inl (hdigit h)
  | negSucc n =>
    rcases List.mem_cons.mp h with rfl | h
    · exact .inr rfl
    · exact .inl (hdigit h)

theorem isDeclared_toParameter {d : Descriptor} (h : d.IsPlain) : d.toParameter.IsDeclared := by
  cases hm : d.isMatrix with
  | false =>
    obtain ⟨length, haxes⟩ := h.value hm
    refine ⟨h.name, haxes ▸ List.cons_ne_nil _ _, ?_⟩
    rw [haxes]
    exact List.forall_mem_singleton.mpr fun c hc => mem_ofInt hc
  | true =>
    obtain ⟨-, rows, columns, hrows, hcolumns, haxes⟩ := h.matrix hm
    refine ⟨h.name, haxes ▸ List.cons_ne_nil _ _, ?_⟩
    rw [haxes]
    exact List.forall_mem_cons.mpr ⟨fun c hc => .inl (hrows.forall_mem c hc),
      List.forall_mem_singleton.mpr fun c hc => .inl (hcolumns.forall_mem c hc)⟩

theorem declaredIn_signature {ds : List Descriptor} (h : ∀ d ∈ ds, d.IsPlain) :
    Parameter.declaredIn (Descriptor.signature ds) =
      ds.map fun d => (d.name, d.axes.map Axis.write) := by
  rw [Descriptor.signature, Parameter.declaredIn_writeAll, List.map_map]
  · rfl
  · intro p hp
    obtain ⟨d, hd, rfl⟩ := List.mem_map.mp hp
    exact isDeclared_toParameter (h d hd)

/-! ### Agreement -/

/-- What code has to be for the native call of a declaration in blocks for some instantiations. -/
structure Agrees (function : Text) (ds : List Descriptor) (is : List Instantiation) (code : Text) :
    Prop where
  /-- Without matrices it is the call. -/
  bare : matrices ds = [] → NativeCall.read? code = some (.ofDescriptors function ds)
  /-- With matrices each block makes the call once, and its variables are declared before. -/
  blocks : matrices ds ≠ [] → ∀ size, execute size code = some (is.map fun i =>
    ⟨some [i.letter], variableNames ds, .ofDescriptors function ds,
      (arguments ds).map (.ofDescriptor size i)⟩)
  nodup : (variableNames ds).Nodup
  length : (variableNames ds).length = 2 * (matrices ds).length
  pointers : ∀ name, .pointer name ∈ (NativeCall.ofDescriptors function ds).passed →
    name ∈ variableNames ds
  /-- What it refers to as a parameter is declared as one. -/
  parameters : ∀ x, ')' ∉ x → "$P(".toList ++ (x ++ [')']) <:+: code →
    x ∈ (Parameter.declaredIn (Descriptor.signature ds)).map Prod.fst
  /-- What it refers to as an axis is declared as one. -/
  axes : ∀ a, ')' ∉ a → "$SIZE(".toList ++ (a ++ [')']) <:+: code →
    a ∈ (Parameter.declaredIn (Descriptor.signature ds)).flatMap Prod.snd

section Agreement
variable {ds : List Descriptor} {function : Text}

theorem nodup_variableNames (h : ∀ d ∈ ds, d.isMatrix = true → d.IsPlain)
    (hn : ((matrices ds).map (·.name)).Nodup) : (variableNames ds).Nodup := by
  rw [← @names_steps ds [] h]
  exact MatrixStep.nodup_names ((map_name_steps h).symm ▸ hn)

theorem mem_variableNames {name : Text}
    (h : .pointer name ∈ (NativeCall.ofDescriptors function ds).passed) :
    name ∈ variableNames ds := by
  obtain ⟨d, hd, hpassed⟩ := List.mem_map.mp h
  unfold Passed.ofDescriptor at hpassed
  split_ifs at hpassed with hm
  cases hpassed
  have hmatrix : d ∈ matrices ds := List.mem_filter.mpr ⟨List.mem_of_mem_filter hd, hm⟩
  exact List.mem_flatMap.mpr ⟨d, hmatrix, List.mem_cons_of_mem _ List.mem_cons_self⟩

theorem close_not_mem (h : ∀ d ∈ ds, d.IsPlain) :
    (∀ x ∈ ds.map (·.name), ')' ∉ x) ∧
      ∀ a ∈ ds.flatMap fun d => d.axes.map Axis.write, ')' ∉ a := by
  constructor
  · intro x hx
    obtain ⟨d, hd, rfl⟩ := List.mem_map.mp hx
    exact (h d hd).name.not_mem (by decide)
  · intro a ha
    obtain ⟨d, hd, ha⟩ := List.mem_flatMap.mp ha
    exact Parameter.not_mem_axes (isDeclared_toParameter (h d hd)) (by decide) (by decide) a ha

/-- The code for an accepted declaration agrees with it. -/
theorem agrees_code {registry : Registry} {returnName returnType text : Text}
    (h : Argument.classifyAll registry returnName returnType text = .ok ds)
    (hr : IsSymbol returnName) (hf : IsSymbol function)
    (hn : ((arguments ds).map (·.name)).Nodup) (is : List Instantiation) :
    NativeCall.ofExpression (Plan.ofDescriptors function ds).call = .ofDescriptors function ds ∧
      Agrees function ds is ((Plan.ofDescriptors function ds).code is) := by
  obtain ⟨slot, rest, hds, hslot, hrest⟩ := Argument.isClassified_of_classifyAll h
  have hplain : ∀ d ∈ ds, d.IsPlain := by
    intro d hd
    obtain ⟨isReturn, hd⟩ := Argument.exists_isClassified h d hd
    exact Argument.isPlain_of_isClassified (fun _ => hr) hd
  have hcall := @ofExpression_ofDescriptors ds function slot rest hds
    (fun d hd => (hslot d hd).isReturn_eq) fun d hd => (hrest d hd).isReturn_eq
  have hplan := isPlain_ofDescriptors hplain hf
  have hnames : ((matrices ds).map (·.name)).Nodup := by
    rw [matrices_eq hplain]
    exact hn.sublist (List.filter_sublist.map _)
  have hrefers := refers_code hplan (names_ofDescriptors hplain) is
  obtain ⟨hparameters, haxes⟩ := close_not_mem hplain
  refine ⟨hcall, ?bare, fun hm size => execute_code hplain hf hnames hm hcall size is,
    nodup_variableNames (fun d hd _ => hplain d hd) hnames, ?length, fun _ => mem_variableNames,
    ?parameters, ?axes⟩
  case bare =>
    intro hm
    have hgeneric : (Plan.ofDescriptors function ds).isGeneric = false := by
      rw [← Bool.not_eq_true, isGeneric_iff fun d hd _ => hplain d hd]
      exact not_not_intro hm
    rw [Plan.code, hgeneric, if_neg Bool.false_ne_true, ← hcall]
    exact NativeCall.read?_write hplan.function hplan.operands hplan.target
  case length =>
    simp [variableNames, List.length_flatMap, Nat.mul_comm]
  case parameters =>
    intro x hx hmem
    rw [declaredIn_signature hplain, List.map_map]
    exact hrefers.mem_names hparameters hx hmem
  case axes =>
    intro a ha hmem
    rw [declaredIn_signature hplain, List.flatMap_map]
    exact hrefers.mem_axes haxes ha hmem

/-- A result, a matrix that is only read, one of counts, and a value. -/
theorem agrees_code_mixed :
    ∃ ds, Argument.classifyAll ⟨[], [.text "CvMat".toList], []⟩ "res".toList "int".toList
        "const CvMat* src, CvMat* hit_counts, double eps".toList = .ok ds ∧
      (matrices ds).length = 2 ∧
      Agrees "cvFind".toList ds [.byte, .double]
        ((Plan.ofDescriptors "cvFind".toList ds).code [.byte, .double]) := by
  have hclassify : ∃ ds, Argument.classifyAll ⟨[], [.text "CvMat".toList], []⟩ "res".toList
      "int".toList "const CvMat* src, CvMat* hit_counts, double eps".toList = .ok ds ∧
      (matrices ds).length = 2 ∧ ((arguments ds).map (·.name)).Nodup :=
    ⟨_, rfl, rfl, by decide⟩
  obtain ⟨ds, h, hm, hn⟩ := hclassify
  exact ⟨ds, h, hm, (agrees_code h (.of_isIdentifier rfl) (.of_isIdentifier rfl) hn _).2⟩

end Agreement
end Call
end HeaderBindings
