import HeaderBindings.Manifest.Basic
import HeaderBindings.Proofs.Constant.Writing
import HeaderBindings.Proofs.Text.Numerals
import HeaderBindings.Proofs.Xml.Values

/-!
# Values of manifests

Most values of a manifest are cleaned when they are handed over; the axes of arguments, the letters
of bindings and the names of constants are handed over as they are. So a value is refused just if
something that is cleaned holds a surrogate, U+FFFE or U+FFFF, or something that is not holds
whatever a document may not hold.
-/
namespace HeaderBindings.Manifest

open Constant (Value)
open Xml (IsCleanable IsContent IsWideCleanable IsWideContent Node)

/-! ### What ends a manifest -/

/-- A manifest is refused just for a value that is none of a document, by a library that takes the
others. -/
theorem isSome_refused?_iff {takes : WideText → Bool}
    (htakes : ∀ w, takes w = true ↔ IsWideContent w) (m : Contents) :
    (refused? takes m).isSome = true ↔ ¬∀ v ∈ handed m, IsWideContent v := by
  rw [refused?, List.find?_isSome]
  push Not
  refine exists_congr fun v => and_congr_right fun _ => ?_
  rw [Bool.not_eq_true', ← Bool.not_eq_true, htakes]

/-! ### What is handed over -/

/-- What is cleaned of an argument. -/
def argumentTexts (a : ArgumentEntry) : List WideText := [a.name.toWide, a.type]

/-- What is cleaned of a binding. -/
def bindingTexts (b : BindingEntry) : List WideText :=
  [b.name, b.nativeName, b.source, b.parameters, b.code, b.doc] ++
    b.arguments.flatMap argumentTexts

/-- What is cleaned of a manifest. -/
def cleanedTexts (m : Contents) : List WideText :=
  m.moduleName.toWide :: (m.bindings.flatMap bindingTexts ++ m.table.toList.map (·.name.toWide))

/-- What is handed over of a binding as it is. -/
def keptOfBinding (b : BindingEntry) : List WideText :=
  joined ' ' b.letters :: b.arguments.map fun a => joined ',' a.axes

/-- What is handed over as it is, the labels of this library and numbers apart. -/
def keptTexts (m : Contents) : List WideText :=
  m.bindings.flatMap keptOfBinding ++ m.table.toList.flatMap fun t => t.constants.map Prod.fst

theorem isWideContent_whenTrue (name : Text) (b : Bool) :
    ∀ v ∈ (whenTrue name b).map Prod.snd, IsWideContent v := by
  cases b with
  | false => exact fun v hv => absurd hv List.not_mem_nil
  | true =>
    have htrue : IsWideContent (fixed "true".toList) := by decide
    exact List.forall_mem_singleton.mpr htrue

theorem isContent_ofNat (n : ℕ) : IsContent (Text.ofNat n) :=
  Xml.isContent_of_isWordText fun c hc => Text.isWord_of_isDigit (Text.isDigit_ofNat c hc)

theorem isContent_ofInt (n : ℤ) : IsContent (Text.ofInt n) := by
  cases n with
  | ofNat n => exact isContent_ofNat n
  | negSucc n => exact Xml.isContent_cons.mpr ⟨by decide, isContent_ofNat (n + 1)⟩

theorem argumentNode_iff (a : ArgumentEntry) :
    (∀ v ∈ (argumentNode a).values, IsWideContent v) ↔
      (∀ t ∈ argumentTexts a, IsWideCleanable t) ∧ IsWideContent (joined ',' a.axes) := by
  have hlabels : IsWideContent (fixed a.role.label.toList) ∧
      IsWideContent (fixed a.element.label.toList) ∧
      IsWideContent (fixed a.kind.label.toList) := by
    refine ⟨?_, ?_, ?_⟩
    · cases a.role <;> decide
    · cases a.element <;> decide
    · cases a.kind <;> decide
  obtain ⟨hrole, helement, hkind⟩ := hlabels
  rw [argumentNode, Node.values, List.map_append, List.map_append, List.forall_mem_append,
    List.forall_mem_append, and_iff_left (isWideContent_whenTrue _ _),
    and_iff_left (isWideContent_whenTrue _ _)]
  simp [argumentTexts, hrole, helement, hkind, Xml.isWideContent_clean, Xml.isWideContent_ofDatum,
    and_assoc]

theorem bindingNode_iff (b : BindingEntry) :
    (∀ v ∈ (bindingNode b).values, IsWideContent v) ↔
      (∀ t ∈ bindingTexts b, IsWideCleanable t) ∧ ∀ t ∈ keptOfBinding b, IsWideContent t := by
  have harguments : (∀ n ∈ b.arguments.map argumentNode, ∀ v ∈ n.values, IsWideContent v) ↔
      (∀ t ∈ b.arguments.flatMap argumentTexts, IsWideCleanable t) ∧
        ∀ t ∈ b.arguments.map fun a => joined ',' a.axes, IsWideContent t := by
    rw [List.forall_mem_map, List.forall_mem_flatMap, List.forall_mem_map, ← forall₂_and]
    exact forall₂_congr fun a _ => argumentNode_iff a
  have hattributes : (∀ v ∈ (bindingAttributes b).map Prod.snd, IsWideContent v) ↔
      IsWideCleanable b.name ∧ IsWideCleanable b.nativeName ∧ IsWideCleanable b.source := by
    have hline : IsWideContent (fixed (Text.ofInt b.line)) :=
      Xml.isWideContent_ofText.mpr (isContent_ofInt b.line)
    simp [bindingAttributes, Xml.isWideContent_clean, hline]
  have hbefore : (∀ n ∈ [Node.text "pars".toList (Xml.clean b.parameters),
      .text "generic-types".toList (joined ' ' b.letters)], ∀ v ∈ n.values, IsWideContent v) ↔
      IsWideCleanable b.parameters ∧ IsWideContent (joined ' ' b.letters) := by
    simp [Node.values, Xml.isWideContent_clean]
  have hafter : (∀ n ∈ [Node.plain "code".toList (Xml.clean b.code),
      .text "doc".toList (Xml.clean b.doc)], ∀ v ∈ n.values, IsWideContent v) ↔
      IsWideCleanable b.code ∧ IsWideCleanable b.doc := by
    simp [Node.values, Xml.isWideContent_clean]
  have htexts : (∀ t ∈ bindingTexts b, IsWideCleanable t) ↔
      (IsWideCleanable b.name ∧ IsWideCleanable b.nativeName ∧ IsWideCleanable b.source) ∧
        IsWideCleanable b.parameters ∧ (IsWideCleanable b.code ∧ IsWideCleanable b.doc) ∧
          ∀ t ∈ b.arguments.flatMap argumentTexts, IsWideCleanable t := by
    rw [bindingTexts, List.forall_mem_append]
    simp [and_assoc]
  rw [bindingNode, Node.values, List.forall_mem_append, Node.forall_mem_valuesAll,
    List.forall_mem_append, List.forall_mem_append, hattributes, hbefore, harguments, hafter,
    htexts, keptOfBinding, List.forall_mem_cons]
  constructor
  · rintro ⟨ha, ⟨⟨hp, hl⟩, ht, hx⟩, hc⟩
    exact ⟨⟨ha, hp, hc, ht⟩, hl, hx⟩
  · rintro ⟨⟨ha, hp, hc, ht⟩, hl, hx⟩
    exact ⟨ha, ⟨⟨hp, hl⟩, ht, hx⟩, hc⟩

theorem isCleanable_write (v : Value) : IsCleanable v.write := by
  have hchars : IsCleanable Constant.numberChars := by decide
  exact fun c hc => hchars c (v.mem_numberChars c hc)

theorem tableNode_iff (t : TableEntry) :
    (∀ v ∈ (tableNode t).values, IsWideContent v) ↔
      IsWideCleanable t.name.toWide ∧ ∀ name ∈ t.constants.map Prod.fst, IsWideContent name := by
  have hkind (b : Bool) : IsWideContent (fixed (Constant.kindText b).toList) := by
    cases b <;> decide
  rw [tableNode, Node.values, List.forall_mem_append, Node.forall_mem_valuesAll,
    List.forall_mem_map, List.forall_mem_map]
  simp [constantNode, Node.values, Xml.isWideContent_clean, Xml.isWideContent_ofDatum,
    isCleanable_write, hkind]

/-- A document may hold the values of a manifest just if it may hold what is cleaned, once it is,
and what is not. -/
theorem handed_iff (m : Contents) :
    (∀ v ∈ handed m, IsWideContent v) ↔
      (∀ t ∈ cleanedTexts m, IsWideCleanable t) ∧ ∀ t ∈ keptTexts m, IsWideContent t := by
  have hroot : (∀ v ∈ (rootAttributes m).map Prod.snd, IsWideContent v) ↔
      IsWideCleanable m.moduleName.toWide := by
    have hversion : IsWideContent (fixed version) := by decide
    simp [rootAttributes, Xml.isWideContent_ofDatum, hversion]
  have hbindings : (∀ n ∈ m.bindings.map bindingNode, ∀ v ∈ n.values, IsWideContent v) ↔
      (∀ t ∈ m.bindings.flatMap bindingTexts, IsWideCleanable t) ∧
        ∀ t ∈ m.bindings.flatMap keptOfBinding, IsWideContent t := by
    rw [List.forall_mem_map, List.forall_mem_flatMap, List.forall_mem_flatMap, ← forall₂_and]
    exact forall₂_congr fun b _ => bindingNode_iff b
  have htables : (∀ n ∈ m.table.toList.map tableNode, ∀ v ∈ n.values, IsWideContent v) ↔
      (∀ t ∈ m.table.toList.map (·.name.toWide), IsWideCleanable t) ∧
        ∀ t ∈ m.table.toList.flatMap fun t => t.constants.map Prod.fst, IsWideContent t := by
    rw [List.forall_mem_map, List.forall_mem_map, List.forall_mem_flatMap, ← forall₂_and]
    exact forall₂_congr fun t _ => tableNode_iff t
  rw [handed, List.forall_mem_append, hroot, Node.forall_mem_valuesAll, content,
    List.forall_mem_append, hbindings, htables, cleanedTexts, List.forall_mem_cons,
    List.forall_mem_append, keptTexts, List.forall_mem_append, and_and_and_comm]
  simp only [and_assoc]

/-- A document may hold joined strings if it may hold each of them. -/
theorem isWideContent_joined {c : Char} (hc : Xml.IsChar c) {ws : List WideText}
    (h : ∀ w ∈ ws, IsWideContent w) : IsWideContent (joined c ws) := by
  have hseparator : IsWideContent [.char c] := List.forall_mem_singleton.mpr ⟨c, rfl, hc⟩
  induction ws with
  | nil => exact List.forall_mem_nil _
  | cons w ws ih =>
    obtain ⟨hw, hws⟩ := List.forall_mem_cons.mp h
    cases ws with
    | nil => simpa [joined, List.intercalate] using hw
    | cons v vs =>
      have hjoined : joined c (w :: v :: vs) = w ++ [.char c] ++ joined c (v :: vs) := by
        simp [joined, List.intercalate]
      rw [hjoined]
      exact List.forall_mem_append.mpr
        ⟨List.forall_mem_append.mpr ⟨hw, hseparator⟩, ih hws⟩

end HeaderBindings.Manifest
