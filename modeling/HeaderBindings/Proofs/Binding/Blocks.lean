import HeaderBindings.Config.Validation
import HeaderBindings.Proofs.Binding.Parameters

/-!
# Blocks of a binding

The code of a binding with a matrix argument has a block for each instantiation in its list, and the
list is the one of the configuration. Nothing on this way looks for repetitions: a letter that is
listed twice is valid, is an instantiation of the binding twice, and has two blocks. Main statement:
a binding has one block for each of its instantiations just if no letter is listed twice, as long as
no name that is written into the native call breaks its line.
-/
namespace HeaderBindings

open Text

/-! ### Opening lines -/

namespace Call

theorem Instantiation.letter_injective : Function.Injective letter := by
  intro i j h
  have hi := ofLetter?_letter i
  rw [h, ofLetter?_letter j] at hi
  exact (Option.some.inj hi).symm

/-- The line that opens the block of an instantiation. -/
def opening (i : Instantiation) : Text := "types(".toList ++ i.letter :: ") %\x7b".toList

/-- How many lines of a text open a block of an instantiation. -/
def openings (i : Instantiation) (t : Text) : ℕ := (lines t).count (opening i)

theorem opening_inj {i j : Instantiation} : opening i = opening j ↔ i = j := by
  refine ⟨fun h => ?_, congrArg opening⟩
  have hrest := List.append_cancel_left h
  exact Instantiation.letter_injective (List.cons.inj hrest).1

theorem newline_not_mem_opening (i : Instantiation) : '\n' ∉ opening i := by
  cases i <;> decide

/-- Openings in the text of the native call, behind its first line. -/
def Plan.strayOpenings (p : Plan) (i : Instantiation) : ℕ :=
  (Text.lines p.call.write).tail.count (opening i)

/-- Text that is indented opens no block on its first line. -/
theorem openings_indent_append (i : Instantiation) (t : Text) :
    openings i (indent ++ t) = (lines t).tail.count (opening i) := by
  obtain ⟨l, ls, ht, hindent⟩ := exists_lines_append (u := indent) (by decide) t
  have hne : indent ++ l ≠ opening i := by
    intro h
    cases congrArg List.head? h
  rw [openings, hindent, ht, List.count_cons_of_ne hne, List.tail_cons]

/-- Texts of one line have nothing behind it. -/
theorem tails_eq_nil {ts : List Text} (h : ∀ t ∈ ts, '\n' ∉ t) :
    ts.flatMap (fun t => (lines t).tail) = [] := by
  rw [List.flatMap_eq_nil_iff]
  intro t ht
  rw [lines_of_not_mem (h t ht)]
  rfl

/-! ### Blocks -/

section Blocks
variable {p : Plan} (h : ∀ m ∈ p.steps, m.IsPlain)
include h

/-- Of the statements of a block only the native call may be more than one line. -/
theorem tails_body (j : Instantiation) :
    ((p.body j).flatMap Statement.lines).flatMap (fun t => (lines t).tail) =
      (lines p.call.write).tail := by
  have hdeclare : ((p.steps.map Statement.declare).flatMap Statement.lines).flatMap
      (fun t => (lines t).tail) = [] := by
    refine tails_eq_nil ?_
    simp only [List.mem_flatMap, List.mem_map]
    rintro t ⟨_, ⟨m, hm, rfl⟩, ht⟩
    rw [Line.lines_declare, List.mem_singleton] at ht
    exact ht ▸ (Line.reads_declare (h m hm)).newline
  have hattach : ((p.steps.map fun m => .attach m (m.matrixType j).toList).flatMap
      Statement.lines).flatMap (fun t => (lines t).tail) = [] := by
    refine tails_eq_nil ?_
    simp only [List.mem_flatMap, List.mem_map]
    rintro t ⟨_, ⟨m, hm, rfl⟩, ht⟩
    have htype := Line.isSymbol_matrixType m j
    rw [Line.lines_attach] at ht
    simp only [List.mem_cons, List.not_mem_nil, or_false] at ht
    rcases ht with rfl | rfl | rfl | rfl
    · exact (Line.reads_test (h m hm)).newline
    · exact (Line.reads_assign (h m hm) htype).indent.newline
    · exact (Line.reads_point (h m hm)).indent.newline
    · exact Line.reads_endTest.newline
  rw [Plan.body, List.flatMap_append, List.flatMap_append, List.flatMap_append,
    List.flatMap_append, hdeclare, hattach]
  simp [Statement.lines]

/-- A block has its own opening line, and those in the text of the native call. -/
theorem count_block (i j : Instantiation) :
    ((p.block j).flatMap lines).count (opening i) =
      (if j = i then 1 else 0) + p.strayOpenings i := by
  have hindented (ts : List Text) : ((ts.map (indent ++ ·)).flatMap lines).count (opening i) =
      (ts.flatMap fun t => (lines t).tail).count (opening i) := by
    induction ts with
    | nil => rfl
    | cons t ts ih =>
      have ht : (lines (indent ++ t)).count (opening i) = (lines t).tail.count (opening i) :=
        openings_indent_append i t
      rw [List.map_cons, List.flatMap_cons, List.flatMap_cons, List.count_append,
        List.count_append, ht, ih]
  have hbody : ((p.body j).flatMap fun s => s.lines.map (indent ++ ·)) =
      ((p.body j).flatMap Statement.lines).map (indent ++ ·) := by
    rw [List.map_flatMap]
  have hopening : (lines (opening j)).count (opening i) = if j = i then 1 else 0 := by
    rw [lines_of_not_mem (newline_not_mem_opening j), List.count_singleton]
    simp [opening_inj]
  have hending : (lines "%\x7d".toList).count (opening i) = 0 := by
    cases i <;> decide
  have hblock : p.block j = opening j ::
      (((p.body j).flatMap Statement.lines).map (indent ++ ·) ++ ["%\x7d".toList]) := by
    rw [← hbody]
    rfl
  rw [hblock, List.flatMap_cons, List.flatMap_append, List.count_append, List.count_append,
    hopening, hindented, tails_body h, List.flatMap_singleton, hending, Plan.strayOpenings,
    Nat.add_zero]

/-- Code has a block for an instantiation as often as that is listed. -/
theorem openings_code (hg : p.isGeneric = true) (is : List Instantiation) (i : Instantiation) :
    openings i (p.code is) = is.count i + is.length * p.strayOpenings i := by
  have hblocks : ((is.flatMap p.block).flatMap lines).count (opening i) =
      is.count i + is.length * p.strayOpenings i := by
    induction is with
    | nil => simp
    | cons j is ih =>
      rw [List.flatMap_cons, List.flatMap_append, List.count_append, count_block h, ih,
        List.count_cons, List.length_cons, Nat.succ_mul]
      simp only [beq_iff_eq]
      omega
  rw [Plan.code, if_pos hg, openings, ← hblocks]
  cases hs : is.flatMap p.block with
  | nil => cases i <;> decide
  | cons t ts => rw [lines_join_flatMap]

end Blocks

/-- Whether a line of code is a native call. -/
def Line.isCall (l : Line) : Bool := l matches .call _

/-- A block makes one native call. -/
theorem countP_isCall_lines (p : Plan) (i : Instantiation) :
    (p.lines i).countP Line.isCall = 1 := by
  have hdeclare : (p.steps.map MatrixStep.declaration).countP Line.isCall = 0 := by
    rw [List.countP_eq_zero]
    intro l hl
    obtain ⟨m, -, rfl⟩ := List.mem_map.mp hl
    exact Bool.false_ne_true
  have hattach : (p.steps.flatMap (MatrixStep.attachment i)).countP Line.isCall = 0 := by
    rw [List.countP_eq_zero]
    intro l hl
    obtain ⟨m, -, hm⟩ := List.mem_flatMap.mp hl
    simp only [MatrixStep.attachment, List.mem_cons, List.not_mem_nil, or_false] at hm
    rcases hm with rfl | rfl | rfl | rfl <;> exact Bool.false_ne_true
  rw [Plan.lines_eq, List.countP_cons, List.countP_append, List.countP_append, hdeclare, hattach]
  rfl

/-- A call whose names do not break its line is one line. -/
theorem Plan.strayOpenings_eq_zero {p : Plan} (h : '\n' ∉ p.call.write) (i : Instantiation) :
    p.strayOpenings i = 0 := by
  rw [Plan.strayOpenings, lines_of_not_mem h]
  rfl

end Call

/-! ### Listed instantiations -/

namespace Config

theorem eq_text_of_instantiation? {d : Datum} {i : Call.Instantiation}
    (h : instantiation? d = some i) : d = .text [i.letter] := by
  obtain ⟨t, ht, hi⟩ := Option.bind_eq_some_iff.mp h
  have hletter : [i.letter] = t := by simpa using List.find?_some hi
  cases d with
  | text u =>
    cases ht
    rw [hletter]
  | _ => cases ht

/-- The instantiations of a valid configuration are those whose letters it lists, in order and as
often as it lists them. -/
theorem genericTypes_of_instantiations {c : Config} (hv : c.validate = .ok ())
    {is : List Call.Instantiation} (hi : c.instantiations = .ok is) :
    c.get .genericTypes = textList (is.map fun i => [i.letter]) := by
  obtain ⟨ds, hds, hi⟩ := bind_eq_ok_iff.mp hi
  have hlist : c.get .genericTypes = .list ds := by
    have hnone : c.notAList? = none := by
      unfold validate at hv
      split at hv
      · cases hv
      · assumption
    have hfield := List.findSome?_eq_none_iff.mp hnone .genericTypes (by decide)
    unfold genericMembers at hds
    cases hg : c.get .genericTypes with
    | list items =>
      simp only [hg, NativeType.Profile.members] at hds
      split_ifs at hds
      rw [Except.ok.inj hds]
    | null => simp [hg, NativeType.Profile.members] at hds
    | _ => simp [hg] at hfield
  dsimp only at hi
  split_ifs at hi with hunknown hempty
  have hknown : ∀ d ∈ ds, (instantiation? d).isSome = true := by
    simpa [Option.isSome_iff_ne_none] using hunknown
  rw [hlist, ← Except.ok.inj hi, textList]
  refine congrArg Datum.list ?_
  clear hds hi hlist hunknown hempty
  induction ds with
  | nil => rfl
  | cons d ds ih =>
    obtain ⟨hd, hds⟩ := List.forall_mem_cons.mp hknown
    obtain ⟨i, hi⟩ := Option.isSome_iff_exists.mp hd
    rw [List.filterMap_cons_some hi, List.map_cons, List.map_cons, ← ih hds,
      ← eq_text_of_instantiation? hi]

end Config

/-! ### Blocks of a binding -/

namespace Binding

open Argument (Descriptor)
open Call (Instantiation IsSymbol Line Plan openings)
open Header (Declaration)

/-- A binding with different instantiations, and with one block for each of them. -/
structure BoundFunction.HasOneBlockEach (f : BoundFunction) : Prop where
  nodup : f.instantiations.Nodup
  once : ∀ i ∈ f.instantiations, openings i f.code = 1

/-- The blocks of a binding for listed letters. -/
structure HasListedBlocks (letters : List Text) (rules : Rules) (d : Declaration)
    (f : BoundFunction) : Prop where
  listed : f.instantiations.map (fun i => [i.letter]) = letters
  openings_eq : ∀ i, openings i f.code =
    f.instantiations.count i + f.instantiations.length * f.plan.strayOpenings i
  /-- The text of the native call opens no block unless a name in it has a line feed. -/
  stray : '\n' ∉ rules.returnName → '\n' ∉ d.name → ∀ i, f.plan.strayOpenings i = 0
  /-- The native call is written once for each listed letter. -/
  calls : IsSymbol rules.returnName → IsSymbol d.name → ∃ ls, Line.readAll? f.code = some ls ∧
    ls.countP Line.isCall = letters.length
  oneBlockEach_iff : f.HasOneBlockEach ↔
    letters.Nodup ∧ ∀ i ∈ f.instantiations, f.plan.strayOpenings i = 0

section Classified
variable {registry : NativeType.Registry} {returnName returnType text function : Text}
  {ds : List Descriptor} (h : Argument.classifyAll registry returnName returnType text = .ok ds)
include h

theorem isPlain_of_not_isReturn : ∀ d ∈ ds, d.isReturn = false → d.IsPlain := by
  intro d hd hreturn
  obtain ⟨isReturn, hclassified⟩ := Argument.exists_isClassified h d hd
  rw [hclassified.isReturn_eq] at hreturn
  subst hreturn
  exact Argument.isPlain_of_isClassified (fun hreturn => absurd hreturn Bool.false_ne_true)
    hclassified

theorem isPlain_of_isMatrix : ∀ d ∈ ds, d.isMatrix = true → d.IsPlain := by
  intro d hd hmatrix
  obtain ⟨isReturn, hclassified⟩ := Argument.exists_isClassified h d hd
  exact isPlain_of_not_isReturn h d hd
    (hclassified.isReturn_eq.trans (hclassified.matrix hmatrix).1)

/-- Of the names in a native call only the return name and that of the function can be other than
symbols. -/
theorem newline_not_mem_call (hr : '\n' ∉ returnName) (hf : '\n' ∉ function) :
    '\n' ∉ (Plan.ofDescriptors function ds).call.write := by
  refine Call.Expression.newline_not_mem_write _ hf (fun o ho => ?_) fun s hs => ?_
  · obtain ⟨d, hd, hof⟩ := List.mem_filterMap.mp ho
    have hreturn : d.isReturn = false := by
      by_contra hreturn
      simp [Call.Operand.ofDescriptor?, hreturn] at hof
    rw [Call.slot_of_ofDescriptor? hof]
    exact Call.isPlain_slotOf (isPlain_of_not_isReturn h d hd hreturn)
  · obtain ⟨d, hd, rfl⟩ := Option.map_eq_some_iff.mp hs
    obtain ⟨hmem, hreturn⟩ := List.mem_filter.mp (List.mem_of_getLast? hd)
    obtain ⟨isReturn, hclassified⟩ := Argument.exists_isClassified h d hmem
    rw [hclassified.isReturn_eq] at hreturn
    subst hreturn
    have hname : '\n' ∉ d.name := hclassified.name ▸ hr
    have htype : '\n' ∉ d.type := (IsSymbol.of_isName hclassified.type).not_mem (by decide)
    have htyped : '\n' ∉ "*(".toList ++ d.type ++ "*)$P(".toList :=
      List.not_mem_append (List.not_mem_append (by decide) htype) (by decide)
    exact List.not_mem_append (List.not_mem_append htyped hname) (by decide)

end Classified

/-- Every binding with a matrix argument has a block for each letter that the configuration lists.
So it has one block for each of its instantiations just if no letter is listed twice, where the text
of its native call opens no further block. -/
theorem hasListedBlocks_bind {c : Config} {rules : Rules} {source : Text} {d : Declaration}
    {f : BoundFunction} (hv : c.validate = .ok ())
    (hi : c.instantiations = .ok rules.instantiations)
    (h : (rules.bind source d).result = .ok f) (hm : Call.matrices f.arguments ≠ []) :
    ∃ letters, c.get .genericTypes = Config.textList letters ∧
      HasListedBlocks letters rules d f := by
  obtain ⟨p, short, arguments, -, -, hall, rfl⟩ := Generator.bind_eq_ok h
  have hmatrix := isPlain_of_isMatrix hall
  have hgeneric : (Plan.ofDescriptors d.name arguments).isGeneric = true :=
    (Call.isGeneric_iff hmatrix).mpr hm
  have hopenings := Call.openings_code (fun m hm => Call.isPlain_of_mem_steps hmatrix hm)
    hgeneric rules.instantiations
  have hletters : Function.Injective fun i : Instantiation => [i.letter] :=
    fun i j hij => Instantiation.letter_injective (List.cons.inj hij).1
  refine ⟨_, Config.genericTypes_of_instantiations hv hi, rfl, hopenings, fun hr hd i => ?stray,
    fun hr hd => ?calls, fun hone => ?one, fun ⟨hnodup, hstray⟩ => ?each⟩
  case stray => exact Plan.strayOpenings_eq_zero (newline_not_mem_call hall hr hd) i
  case calls =>
    have hplain : ∀ e ∈ arguments, e.IsPlain := by
      intro e he
      obtain ⟨isReturn, hclassified⟩ := Argument.exists_isClassified hall e he
      exact Argument.isPlain_of_isClassified (fun _ => hr) hclassified
    refine ⟨_, Plan.readAll?_code (Call.isPlain_ofDescriptors hplain hd) hgeneric _, ?_⟩
    simp [List.countP_flatMap, Function.comp_def, Call.countP_isCall_lines]
  case one =>
    refine ⟨hone.nodup.map hletters, fun i hmem => ?_⟩
    have hcount : 0 < rules.instantiations.count i := List.count_pos_iff.mpr hmem
    have hlength : 0 < rules.instantiations.length := List.length_pos_of_mem hmem
    have hcode : rules.instantiations.count i + rules.instantiations.length *
        (Plan.ofDescriptors d.name arguments).strayOpenings i = 1 :=
      (hopenings i).symm.trans (hone.once i hmem)
    have hnone : rules.instantiations.length *
        (Plan.ofDescriptors d.name arguments).strayOpenings i = 0 := by omega
    exact (Nat.mul_eq_zero.mp hnone).resolve_left hlength.ne'
  case each =>
    have hdifferent : rules.instantiations.Nodup := List.Nodup.of_map _ hnodup
    refine ⟨hdifferent, fun i hmem => ?_⟩
    have hcount : rules.instantiations.count i = 1 := List.count_eq_one_of_mem hdifferent hmem
    exact (hopenings i).trans (by rw [hcount, hstray i hmem, Nat.mul_zero])

/-- A configuration that lists a letter twice. -/
def byteTwice : Config := Config.standard.set .genericTypes (Config.textList [['B'], ['B']])

def byteTwiceRules : Rules :=
  ⟨.text "cv".toList, "retval".toList, true, .standard, [.byte, .byte]⟩

/-- A function with a matrix. -/
def flip : Declaration := ⟨"void".toList, "cvFlip".toList, "CvMat* m".toList, 1⟩

/-- A letter that is listed twice is valid, and has two blocks. -/
theorem hasListedBlocks_bind_byteTwice : byteTwice.validate = .ok () ∧
    ∃ f, (byteTwiceRules.bind ['a'] flip).result = .ok f ∧
      HasListedBlocks [['B'], ['B']] byteTwiceRules flip f ∧
      openings .byte f.code = 2 ∧ ¬ f.HasOneBlockEach := by
  have hv : byteTwice.validate = .ok () := rfl
  have hs : (byteTwiceRules.bind ['a'] flip).result.toOption.map (fun f =>
      (f.instantiations, (Call.matrices f.arguments).length, openings .byte f.code)) =
        some ([.byte, .byte], 1, 2) := by decide +kernel
  rcases hf : (byteTwiceRules.bind ['a'] flip).result with e | f
  · rw [hf] at hs
    cases hs
  · rw [hf] at hs
    obtain ⟨hinstantiations, hcounts⟩ := Prod.mk.inj (Option.some.inj hs)
    obtain ⟨hmatrices, hopenings⟩ := Prod.mk.inj hcounts
    have hm : Call.matrices f.arguments ≠ [] := List.ne_nil_of_length_pos (by omega)
    obtain ⟨letters, hletters, hlisted⟩ := hasListedBlocks_bind hv rfl hf hm
    have htwice : letters = [['B'], ['B']] := by
      rw [← hlisted.listed, hinstantiations]
      rfl
    refine ⟨hv, f, rfl, htwice ▸ hlisted, hopenings, fun hone => ?_⟩
    have hnodup := (hlisted.oneBlockEach_iff.mp hone).1
    rw [htwice] at hnodup
    exact absurd hnodup (by decide)

end Binding
end HeaderBindings
