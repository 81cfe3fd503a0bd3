import HeaderBindings.Binding.Setup
import HeaderBindings.Proofs.Argument.Classification
import HeaderBindings.Proofs.Binding.ShortNames
import HeaderBindings.Proofs.Manifest.Values

/-!
# Legal text in manifests of runs

What a run takes from headers are names, so a document may hold their characters, and whatever is
handed over as it is. Only the name of the module, that of the table, the paths of the headers and
the name of the result come from elsewhere. A value of a manifest of a run is refused just if one of
these holds a surrogate, U+FFFE or U+FFFF.
-/
namespace HeaderBindings

open Text
open Xml (IsCleanable IsContent IsWideCleanable IsWideContent)

theorem isCleanable_of_isWordText {t : Text} (h : IsWordText t) : IsCleanable t :=
  (Xml.isContent_of_isWordText h).isCleanable

/-! ### Descriptors -/

namespace Argument

/-- A descriptor whose name, type and axes can be cleaned. -/
structure Descriptor.IsCleanable (d : Descriptor) : Prop where
  name : Xml.IsCleanable d.name
  type : Xml.IsCleanable d.type
  axes : ∀ a ∈ d.axes, Xml.IsCleanable a.write

section Classified
variable {registry : NativeType.Registry} {returnName : Text} {isReturn : Bool} {d : Descriptor}
  (h : d.IsClassified registry returnName isReturn)
include h

/-- Axes are named by word characters, or numbers. -/
theorem isContent_axes : ∀ a ∈ d.axes, IsContent a.write := by
  cases hm : d.isMatrix with
  | true =>
    obtain ⟨rfl, -, haxes⟩ := h.matrix hm
    have hname : IsWordText (d.name.filter (· ≠ '_')) :=
      fun c hc => IsWordText.of_isName h.name c (List.mem_of_mem_filter hc)
    have haxis (c : Char) (hc : Xml.IsChar c) : IsContent (d.name.filter (· ≠ '_') ++ [c]) :=
      Xml.isContent_append.mpr
        ⟨Xml.isContent_of_isWordText hname, List.forall_mem_singleton.mpr hc⟩
    rw [haxes]
    exact List.forall_mem_cons.mpr ⟨haxis '0' (by decide),
      List.forall_mem_singleton.mpr (haxis '1' (by decide))⟩
  | false =>
    obtain ⟨shape, -, haxes⟩ := h.value hm
    rw [haxes]
    exact List.forall_mem_singleton.mpr (Manifest.isContent_ofInt shape.length)

theorem isCleanable_of_isClassified (hr : isReturn = true → Xml.IsCleanable returnName) :
    d.IsCleanable where
  name := by
    have hname := h.name
    cases isReturn with
    | true => exact hname ▸ hr rfl
    | false => exact isCleanable_of_isWordText (.of_isName hname)
  type := isCleanable_of_isWordText (.of_isName h.type)
  axes a ha := (isContent_axes h a ha).isCleanable

end Classified
end Argument

/-! ### Declaration strings -/

theorem Parameter.isCleanable_write {p : Parameter} (hn : IsCleanable p.name)
    (ha : ∀ a ∈ p.axes, IsCleanable a.write) : IsCleanable p.write := by
  have haxes : IsCleanable (writeAxes p.axes) :=
    Xml.isCleanable_join (by decide) (List.forall_mem_map.mpr ha)
  have hwords : ∀ t ∈ p.leadingWords, IsCleanable t := by
    refine List.forall_mem_append.mpr ⟨?_, ?_⟩
    · cases p.element <;> decide
    · cases p.role <;> decide
  refine Xml.isCleanable_join (by decide) (List.forall_mem_append.mpr ⟨hwords, ?_⟩)
  rw [List.forall_mem_singleton, Xml.isCleanable_append, Xml.isCleanable_append,
    Xml.isCleanable_cons]
  exact ⟨⟨hn, by decide, haxes⟩, by decide⟩

theorem Argument.Descriptor.isCleanable_signature {ds : List Descriptor}
    (h : ∀ d ∈ ds, d.IsCleanable) : Xml.IsCleanable (signature ds) := by
  refine Xml.isCleanable_join (by decide) ?_
  rw [List.map_map, List.forall_mem_map]
  exact fun d hd => Parameter.isCleanable_write (h d hd).name (h d hd).axes

/-! ### Code -/

namespace Call

open Argument (Descriptor)

theorem Slot.isCleanable_write {s : Slot} (hn : IsCleanable s.name) (ht : IsCleanable s.type) :
    IsCleanable s.write := by
  simp only [Slot.write, Xml.isCleanable_append]
  exact ⟨⟨⟨⟨by decide, ht⟩, by decide⟩, hn⟩, by decide⟩

section Plans
variable {ds : List Descriptor} (h : ∀ d ∈ ds, d.IsCleanable) {function : Text}
include h

theorem isCleanable_slotOf {d : Descriptor} (hd : d ∈ ds) : IsCleanable (slotOf d).write :=
  Slot.isCleanable_write (h d hd).name (h d hd).type

theorem isCleanable_call (hf : IsCleanable function) :
    IsCleanable (Plan.ofDescriptors function ds).call.write := by
  have hoperands : ∀ t ∈ (ds.filterMap Operand.ofDescriptor?).map Operand.write,
      IsCleanable t := by
    refine List.forall_mem_map.mpr fun o ho => ?_
    obtain ⟨d, hd, ho⟩ := List.mem_filterMap.mp ho
    unfold Operand.ofDescriptor? at ho
    split_ifs at ho
    · cases ho
      exact Xml.isCleanable_append.mpr ⟨by decide, (h d hd).name⟩
    · cases ho
      exact isCleanable_slotOf h hd
  have hcall : IsCleanable (function ++ '(' ::
      join [',', ' '] ((ds.filterMap Operand.ofDescriptor?).map Operand.write) ++ [')', ';']) := by
    rw [Xml.isCleanable_append, Xml.isCleanable_append, Xml.isCleanable_cons]
    exact ⟨⟨hf, by decide, Xml.isCleanable_join (by decide) hoperands⟩, by decide⟩
  unfold Expression.write
  cases htarget : (Plan.ofDescriptors function ds).call.target with
  | none => exact hcall
  | some s =>
    obtain ⟨d, hd, rfl⟩ := Option.map_eq_some_iff.mp htarget
    have hmem := List.mem_of_mem_filter (List.mem_of_mem_getLast? hd)
    exact Xml.isCleanable_append.mpr
      ⟨Xml.isCleanable_append.mpr ⟨isCleanable_slotOf h hmem, by decide⟩, hcall⟩

theorem isCleanable_steps : ∀ s ∈ (Plan.ofDescriptors function ds).steps,
    IsCleanable s.name ∧ IsCleanable s.rows ∧ IsCleanable s.columns := by
  intro s hs
  obtain ⟨d, hd, hs⟩ := List.mem_filterMap.mp hs
  unfold MatrixStep.ofDescriptor? at hs
  split_ifs at hs
  split at hs
  · next rows columns more haxes =>
    cases hs
    have hmem := (h d hd).axes
    rw [haxes, List.forall_mem_cons, List.forall_mem_cons] at hmem
    exact ⟨(h d hd).name, hmem.1, hmem.2.1⟩
  · cases hs

end Plans

theorem isCleanable_sizeOf {axis : Text} (h : IsCleanable axis) : IsCleanable (sizeOf axis) :=
  Xml.isCleanable_append.mpr ⟨Xml.isCleanable_append.mpr ⟨by decide, h⟩, by decide⟩

theorem MatrixStep.isCleanable_variables {s : MatrixStep} (h : IsCleanable s.name) :
    IsCleanable s.variableName ∧ IsCleanable s.pointerName :=
  ⟨Xml.isCleanable_append.mpr ⟨by decide, h⟩, Xml.isCleanable_append.mpr ⟨by decide, h⟩⟩

/-- The texts of a step are its own, and symbols around them. -/
theorem Statement.isCleanable_lines {s : MatrixStep} {type : Text} (ht : IsCleanable type)
    (h : IsCleanable s.name ∧ IsCleanable s.rows ∧ IsCleanable s.columns) :
    (∀ t ∈ (declare s).lines, IsCleanable t) ∧ ∀ t ∈ (attach s type).lines, IsCleanable t := by
  obtain ⟨hn, hrows, hcolumns⟩ := h
  have hrows := isCleanable_sizeOf hrows
  have hcolumns := isCleanable_sizeOf hcolumns
  obtain ⟨hvariable, hpointer⟩ := MatrixStep.isCleanable_variables hn
  simp only [lines, List.forall_mem_cons, List.not_mem_nil, false_implies, implies_true,
    Xml.isCleanable_append, hn, hrows, hcolumns, ht, hvariable, hpointer, and_true]
  decide

theorem isCleanable_matrixType (s : MatrixStep) (i : Instantiation) :
    IsCleanable (s.matrixType i).toList := by
  unfold MatrixStep.matrixType
  cases s.element <;> cases i <;> decide

theorem isCleanable_code {ds : List Descriptor} (h : ∀ d ∈ ds, d.IsCleanable) {function : Text}
    (hf : IsCleanable function) (is : List Instantiation) :
    IsCleanable ((Plan.ofDescriptors function ds).code is) := by
  have hcall := isCleanable_call h hf
  have hbody (i : Instantiation) : ∀ s ∈ (Plan.ofDescriptors function ds).body i,
      ∀ t ∈ s.lines, IsCleanable t := by
    have hsteps (m : MatrixStep) (hm : m ∈ (Plan.ofDescriptors function ds).steps) :=
      Statement.isCleanable_lines (isCleanable_matrixType m i) (isCleanable_steps h m hm)
    refine List.forall_mem_append.mpr ⟨List.forall_mem_append.mpr ⟨?_, ?_⟩, ?_⟩
    · exact List.forall_mem_map.mpr fun m hm => (hsteps m hm).1
    · exact List.forall_mem_map.mpr fun m hm => (hsteps m hm).2
    · exact List.forall_mem_singleton.mpr (List.forall_mem_singleton.mpr hcall)
  unfold Plan.code
  split_ifs
  · refine Xml.isCleanable_join (by decide) (List.forall_mem_flatMap.mpr fun i _ => ?_)
    have hopening : IsCleanable ("types(".toList ++ i.letter :: ") %\x7b".toList) := by
      cases i <;> decide
    refine List.forall_mem_append.mpr ⟨List.forall_mem_cons.mpr ⟨hopening, ?_⟩,
      List.forall_mem_singleton.mpr (by decide)⟩
    refine List.forall_mem_flatMap.mpr fun s hs => List.forall_mem_map.mpr fun t ht => ?_
    exact Xml.isCleanable_append.mpr ⟨by decide, hbody i s hs t ht⟩
  · exact hcall

end Call

/-! ### Bindings -/

namespace Binding

theorem isCleanable_documentation {nativeName parameters : Text} (hn : IsCleanable nativeName)
    (hp : IsCleanable parameters) : IsCleanable (documentation nativeName parameters) := by
  unfold documentation
  refine Xml.isCleanable_append.mpr
    ⟨Xml.isCleanable_append.mpr ⟨Xml.isCleanable_append.mpr ⟨by decide, hn⟩, by decide⟩, ?_⟩
  split_ifs
  · decide
  · exact Xml.isCleanable_append.mpr
      ⟨Xml.isCleanable_append.mpr ⟨by decide, hp⟩, by decide⟩

/-- What a document may hold of a binding: its names and types, its axes, and, if the name of its
result can be cleaned, all that is written with that. -/
structure HasLegalText (returnName : Text) (f : BoundFunction) : Prop where
  names : IsCleanable f.name ∧ IsCleanable f.nativeName
  arguments : ∀ d ∈ f.arguments, (d.isReturn = false → IsCleanable d.name) ∧ IsCleanable d.type
  axes : ∀ d ∈ f.arguments, ∀ a ∈ d.axes, IsContent a.write
  hasReturn : f.hasReturn = true ↔ ∃ d ∈ f.arguments, d.isReturn = true
  written : (f.hasReturn = true → IsCleanable returnName) →
    IsCleanable f.parameters ∧ IsCleanable f.code ∧ IsCleanable f.doc

theorem hasLegalText_of_bind {rules : Rules} {source : Text} {d : Header.Declaration}
    {f : BoundFunction} (hd : isName d.name = true) (h : (rules.bind source d).result = .ok f) :
    HasLegalText rules.returnName f := by
  have hshort := isCleanable_of_isWordText (hasShortName_of_bind h hd).words
  have hnative : IsCleanable d.name := isCleanable_of_isWordText (.of_isName hd)
  obtain ⟨p, short, ds, -, -, hds, rfl⟩ := Generator.bind_eq_ok h
  have hclassified := Argument.exists_isClassified hds
  have hreturn : ds.head?.any (·.isReturn) = true ↔ ∃ e ∈ ds, e.isReturn = true := by
    obtain ⟨slot, rest, rfl, hslot, hrest⟩ := Argument.isClassified_of_classifyAll hds
    have hnone : ¬∃ e ∈ rest, e.isReturn = true := by
      rintro ⟨e, he, hr⟩
      rw [(hrest e he).isReturn_eq] at hr
      cases hr
    cases slot with
    | some s => simp [(hslot s rfl).isReturn_eq]
    | none =>
      cases rest with
      | nil => simp
      | cons e rest => simpa [(hrest e List.mem_cons_self).isReturn_eq] using hnone
  refine ⟨⟨hshort, hnative⟩, fun e he => ?_, fun e he => ?_, hreturn, fun hname => ?_⟩
  · obtain ⟨isReturn, hc⟩ := hclassified e he
    refine ⟨fun hfalse => ?_, isCleanable_of_isWordText (.of_isName hc.type)⟩
    obtain rfl : isReturn = false := hc.isReturn_eq.symm.trans hfalse
    exact isCleanable_of_isWordText (.of_isName hc.name)
  · obtain ⟨isReturn, hc⟩ := hclassified e he
    exact Argument.isContent_axes hc
  · have hclean : ∀ e ∈ ds, e.IsCleanable := by
      intro e he
      obtain ⟨isReturn, hc⟩ := hclassified e he
      refine Argument.isCleanable_of_isClassified hc fun htrue => hname (hreturn.mpr ⟨e, he, ?_⟩)
      rw [hc.isReturn_eq, htrue]
    have hparameters := Argument.Descriptor.isCleanable_signature hclean
    exact ⟨hparameters, Call.isCleanable_code hclean hnative _,
      isCleanable_documentation hnative hparameters⟩

end Binding

/-! ### Manifests -/

namespace Manifest

open Binding (Generator HasLegalText)

/-- A string that can be cleaned is a text. -/
theorem exists_text_of_isWideCleanable {w : WideText} (h : IsWideCleanable w) :
    ∃ t, w = .ofText t ∧ IsCleanable t := by
  induction w with
  | nil => exact ⟨[], rfl, List.forall_mem_nil _⟩
  | cons p w ih =>
    obtain ⟨⟨c, rfl, hc⟩, hw⟩ := List.forall_mem_cons.mp h
    obtain ⟨t, rfl, ht⟩ := ih hw
    exact ⟨c :: t, rfl, List.forall_mem_cons.mpr ⟨hc, ht⟩⟩

theorem isCleanable_toText {d : Datum} (h : IsWideCleanable d.toWide) : IsCleanable d.toText := by
  cases d with
  | broken b =>
    obtain ⟨t, ht, -⟩ := exists_text_of_isWideCleanable h
    have htext : b.points.toText? = some t := by
      rw [show b.points = .ofText t from ht, WideText.toText?_ofText]
    rw [b.noText] at htext
    cases htext
  | _ => exact Xml.isWideCleanable_ofText.mp h

/-- What a manifest takes from elsewhere than the text of headers can be cleaned. -/
structure TakesCleanable (labels : Labels) (r : Binding.Result) : Prop where
  moduleName : IsWideCleanable labels.moduleName.toWide
  tableName : ∀ t ∈ r.exported, IsWideCleanable t.name.toWide
  sources : ∀ f ∈ r.bindings, IsCleanable f.place.source
  returnName : ∀ f ∈ r.bindings, f.hasReturn = true → IsWideCleanable labels.returnName.toWide

section Results
variable {labels : Labels} {r : Binding.Result}

theorem isCleanable_bindingTexts {f : Binding.BoundFunction}
    (h : HasLegalText labels.returnName.toText f) :
    (∀ t ∈ bindingTexts (.ofFunction labels f), IsWideCleanable t) ↔
      IsCleanable f.place.source ∧
        (f.hasReturn = true → IsWideCleanable labels.returnName.toWide) := by
  constructor
  · intro hall
    have hsource := hall (.ofText f.place.source) (by simp [bindingTexts, BindingEntry.ofFunction])
    refine ⟨Xml.isWideCleanable_ofText.mp hsource, fun hreturn => ?_⟩
    obtain ⟨d, hd, hr⟩ := h.hasReturn.mp hreturn
    refine hall _ (List.mem_append_right _ (List.mem_flatMap.mpr
      ⟨.ofDescriptor labels d, List.mem_map_of_mem hd, ?_⟩))
    simp [argumentTexts, ArgumentEntry.ofDescriptor, hr]
  · rintro ⟨hsource, hname⟩
    obtain ⟨hparameters, hcode, hdoc⟩ := h.written fun hr => isCleanable_toText (hname hr)
    refine List.forall_mem_append.mpr ⟨?_, List.forall_mem_flatMap.mpr ?_⟩
    · simpa [BindingEntry.ofFunction] using
        ⟨h.names.1, h.names.2, hsource, hparameters, hcode, hdoc⟩
    · refine List.forall_mem_map.mpr fun d hd => ?_
      obtain ⟨hown, htype⟩ := h.arguments d hd
      refine List.forall_mem_cons.mpr
        ⟨?_, List.forall_mem_singleton.mpr (Xml.isWideCleanable_ofText.mpr htype)⟩
      unfold ArgumentEntry.ofDescriptor
      dsimp only
      split_ifs with hr
      · exact hname (h.hasReturn.mpr ⟨d, hd, hr⟩)
      · exact Xml.isWideCleanable_ofText.mpr (hown (by simpa using hr))

/-- The axes of a binding and its letters may be handed over as they are. -/
theorem isWideContent_keptOfBinding {f : Binding.BoundFunction}
    (h : HasLegalText labels.returnName.toText f) :
    ∀ t ∈ keptOfBinding (.ofFunction labels f), IsWideContent t := by
  refine List.forall_mem_cons.mpr ⟨?_, List.forall_mem_map.mpr (List.forall_mem_map.mpr ?_)⟩
  · refine isWideContent_joined (by decide) (List.forall_mem_map.mpr fun i _ => ?_)
    cases i <;> decide
  · refine fun d hd => isWideContent_joined (by decide) (List.forall_mem_map.mpr fun a ha => ?_)
    exact Xml.isWideContent_ofText.mpr (h.axes d hd a ha)

/-- Names from headers never keep a document from holding a manifest. -/
theorem handed_iff_takesCleanable
    (hb : ∀ f ∈ r.bindings, HasLegalText labels.returnName.toText f)
    (he : ∀ t ∈ r.exported, ∀ e ∈ t.entries, isName e.1 = true) :
    (∀ v ∈ handed (.ofResult labels r), IsWideContent v) ↔ TakesCleanable labels r := by
  have hkept : ∀ t ∈ keptTexts (.ofResult labels r), IsWideContent t := by
    refine List.forall_mem_append.mpr ⟨?_, ?_⟩
    · refine List.forall_mem_flatMap.mpr (List.forall_mem_map.mpr fun f hf => ?_)
      exact isWideContent_keptOfBinding (hb f hf)
    · refine List.forall_mem_flatMap.mpr fun t ht => List.forall_mem_map.mpr ?_
      obtain ⟨exported, hexported, rfl⟩ := Option.map_eq_some_iff.mp (Option.mem_toList.mp ht)
      refine List.forall_mem_map.mpr fun e hm => ?_
      have hname := he exported hexported e hm
      exact Xml.isWideContent_ofText.mpr (Xml.isContent_of_isWordText (.of_isName hname))
  have hbindings :
      (∀ t ∈ (r.bindings.map (.ofFunction labels)).flatMap bindingTexts, IsWideCleanable t) ↔
      ∀ f ∈ r.bindings, IsCleanable f.place.source ∧
        (f.hasReturn = true → IsWideCleanable labels.returnName.toWide) := by
    rw [List.forall_mem_flatMap, List.forall_mem_map]
    exact forall₂_congr fun f hf => isCleanable_bindingTexts (hb f hf)
  have htables : (∀ t ∈ (r.exported.map TableEntry.ofTable).toList.map (·.name.toWide),
      IsWideCleanable t) ↔ ∀ t ∈ r.exported, IsWideCleanable t.name.toWide := by
    cases r.exported <;> simp [TableEntry.ofTable]
  rw [handed_iff, and_iff_left hkept, cleanedTexts, List.forall_mem_cons, List.forall_mem_append,
    Contents.ofResult, hbindings, htables]
  constructor
  · rintro ⟨hmodule, hfunctions, htable⟩
    exact ⟨hmodule, htable, fun f hf => (hfunctions f hf).1, fun f hf => (hfunctions f hf).2⟩
  · intro h
    exact ⟨h.moduleName, fun f hf => ⟨h.sources f hf, h.returnName f hf⟩, h.tableName⟩

/-- Where a number has no text the bindings are written nevertheless, and the constants before. -/
theorem writablePart_sub : (writablePart r).1.bindings = r.bindings ∧
    ∀ t ∈ (writablePart r).1.exported, ∃ t' ∈ r.exported, t.entries ⊆ t'.entries := by
  unfold writablePart
  split
  · next hnone =>
    refine ⟨rfl, fun t ht => ?_⟩
    rw [hnone] at ht
    cases ht
  · next t' hsome =>
    split_ifs
    · refine ⟨rfl, fun t ht => ⟨t', hsome, ?_⟩⟩
      have hspan := List.span_eq_takeWhile_dropWhile (p := fun e => e.2.isWritable)
        (l := t'.entries)
      rw [hspan] at ht
      cases ht
      exact (List.takeWhile_prefix _).subset
    · exact ⟨rfl, fun t ht => absurd ht (Option.not_mem_none t)⟩

end Results

theorem returnName_of_ofConfig {c : Config} {yaml : Files.YamlReader} {outside : Files.Outside}
    {tree : Files.Tree} {expander : Preprocessor.Expander} {g : Generator}
    (h : Generator.ofConfig c yaml outside tree expander = .ok g) :
    g.rules.returnName = (c.get .returnName).toText := by
  obtain ⟨_, -, h⟩ := bind_eq_ok_iff.mp h
  obtain ⟨is, -, h⟩ := bind_eq_ok_iff.mp h
  obtain ⟨types, -, h⟩ := bind_eq_ok_iff.mp h
  cases h
  rfl

/-- A library that takes just what a document may hold refuses a value of a manifest just if one is
none that a document may hold. A document may hold them all just if what is cleaned can be, and it
may hold what is not cleaned: the axes of arguments, the letters of bindings and the names of
constants. Those of a run are names: there only the name of the module, that of the table, the paths
of headers with bindings, and the name of the result where there is one matter. -/
theorem illegalText_iff {takes : WideText → Bool}
    (htakes : ∀ w, takes w = true ↔ IsWideContent w) :
    (∀ m : Contents, ((refused? takes m).isSome = true ↔ ¬∀ v ∈ handed m, IsWideContent v) ∧
      ((∀ v ∈ handed m, IsWideContent v) ↔
        (∀ t ∈ cleanedTexts m, IsWideCleanable t) ∧ ∀ t ∈ keptTexts m, IsWideContent t)) ∧
    ∀ c yaml outside setupTree expander g,
      Generator.ofConfig c yaml outside setupTree expander = .ok g →
      ∀ tree headers log r, g.run tree headers = ⟨log, .ok r⟩ →
      ∀ labels : Labels, labels = ⟨c.get .moduleName, c.get .returnName⟩ →
        ((∀ v ∈ handed (.ofResult labels r), IsWideContent v) ↔ TakesCleanable labels r) ∧
        ((refused? takes (Feed.ofResult labels r).contents).isSome = true ↔
          ¬TakesCleanable labels (writablePart r).1) := by
  refine ⟨fun m => ⟨isSome_refused?_iff htakes m, handed_iff m⟩, ?_⟩
  rintro c yaml outside setupTree expander g hg tree headers log r hrun labels rfl
  set labels : Labels := ⟨c.get .moduleName, c.get .returnName⟩
  have hb : ∀ f ∈ r.bindings, HasLegalText labels.returnName.toText f := by
    rw [Binding.bindings_of_run g tree hrun, ← returnName_of_ofConfig hg]
    exact Binding.forall_registered g tree
      (fun _ _ _ hd hf => Binding.hasLegalText_of_bind hd hf) headers
  have he : ∀ t ∈ r.exported, ∀ e ∈ t.entries, isName e.1 = true := by
    intro t ht
    rw [Binding.exported_of_run hrun t ht]
    exact Binding.isName_of_mem_constants hrun
  refine ⟨handed_iff_takesCleanable hb he, ?_⟩
  obtain ⟨hsame, hsub⟩ := @writablePart_sub r
  rw [isSome_refused?_iff htakes]
  refine not_congr (handed_iff_takesCleanable (hsame ▸ hb) fun t ht e hm => ?_)
  obtain ⟨t', ht', hentries⟩ := hsub t ht
  exact he t' ht' e (hentries hm)

/-- A function with a result and a parameter. -/
def resultTree : Files.Tree :=
  ⟨[], [], [([['a']], Text.Utf8.encode "CVAPI(int) cvAbs(int x);".toList)], []⟩

/-- Of a module with the name the function is bound, and then its manifest is refused. -/
def IsRefusedFor (name : Datum) : Prop :=
  ∃ g log r,
    Generator.ofConfig (Config.standard.set .moduleName name) .standard .empty resultTree
      (fun _ _ => ⟨[], .ok []⟩) = .ok g ∧
    g.run resultTree [['a']] = ⟨log, .ok r⟩ ∧ r.bindings.map (·.name) = ["Abs".toList] ∧
    (refused? Xml.isLegal (Feed.ofResult ⟨name, .text "retval".toList⟩ r).contents).isSome = true

/-- A name that holds U+FFFE is refused, and one that is a surrogate. -/
theorem illegalText_iff_nonCharacter : IsRefusedFor (.text ['A', '\uFFFE']) ∧
    IsRefusedFor (.broken ⟨[.surrogate 0], rfl⟩) := by
  have hrefused (name : Datum) (hname : ¬IsWideCleanable name.toWide) (hg : ∃ g,
      Generator.ofConfig (Config.standard.set .moduleName name) .standard .empty resultTree
        (fun _ _ => ⟨[], .ok []⟩) = .ok g ∧
      (g.run resultTree [['a']]).result.toOption.map (·.bindings.map (·.name)) =
        some ["Abs".toList]) : IsRefusedFor name := by
    obtain ⟨g, hg, hnames⟩ := hg
    rcases hrun : g.run resultTree [['a']] with ⟨log, e | r⟩
    · rw [hrun] at hnames
      cases hnames
    · rw [hrun] at hnames
      have hend := ((illegalText_iff fun _ => Xml.isLegal_iff).2 _ _ _ _ _ g hg _ _ log r hrun _
        rfl).2
      exact ⟨g, log, r, hg, hrun, Option.some.inj hnames, hend.mpr fun h => hname h.moduleName⟩
  exact ⟨hrefused _ (by decide) ⟨_, rfl, by decide +kernel⟩,
    hrefused _ (by decide) ⟨_, rfl, by decide +kernel⟩⟩

end Manifest
end HeaderBindings
