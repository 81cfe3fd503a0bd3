import HeaderBindings.Proofs.Argument.Classification
import HeaderBindings.Proofs.Argument.RoundTrip

/-!
# Well-formed descriptors

Whatever the registry knows, an accepted declaration is described by a result, unless it is void,
and one descriptor for each fragment of its argument list. A matrix has two axes named after it and
is passed by one pointer; all else is passed by value with the one axis that its type has. Therefore
code that uses the descriptors can rely on their axes.
-/
namespace HeaderBindings.Argument

open NativeType (Element Kind Registry Shape)
open Text

/-! ### Names of counts -/

/-- A letter without its case. The long s is an s. -/
def foldCase (c : Char) : Char := if c = 'ſ' then 's' else c.toLower

/-- A name that ends in `count` or `counts` in any case. -/
def EndsInCount (name : Text) : Prop :=
  ∃ start ending, name = start ++ ending ∧
    (ending.map foldCase = "count".toList ∨ ending.map foldCase = "counts".toList)

theorem toLower_eq_iff {l c : Char} (hl : l.isLower = true) :
    c.toLower = l ↔ c = l ∨ c = l.toUpper := by
  have h₁ : 97 ≤ l.val.toNat ∧ l.val.toNat ≤ 122 := by
    change (decide (l.val ≥ 'a'.val) && decide (l.val ≤ 'z'.val)) = true at hl
    simpa [UInt32.le_iff_toNat_le] using hl
  have hu : l.toUpper.val.toNat = l.val.toNat - 32 := by
    delta Char.toUpper
    rw [dif_pos ⟨UInt32.le_iff_toNat_le.mpr h₁.1, UInt32.le_iff_toNat_le.mpr h₁.2⟩]
    simp only [UInt32.toNat_add] at h₁ ⊢
    change (l.val.toNat + 4294967264) % 4294967296 = l.val.toNat - 32
    omega
  simp only [Char.ext_iff, UInt32.ext_iff, hu]
  unfold Char.toLower
  split_ifs with h
  · have h₂ : 65 ≤ c.val.toNat ∧ c.val.toNat ≤ 90 :=
      ⟨UInt32.le_iff_toNat_le.mp h.1, UInt32.le_iff_toNat_le.mp h.2⟩
    simp only [UInt32.toNat_add]
    change (c.val.toNat + 32) % 4294967296 = l.val.toNat ↔ _
    omega
  · have h₂ : ¬(65 ≤ c.val.toNat ∧ c.val.toNat ≤ 90) := fun hc =>
      h ⟨UInt32.le_iff_toNat_le.mpr hc.1, UInt32.le_iff_toNat_le.mpr hc.2⟩
    omega

theorem sameLetter_iff {l c : Char} (hl : l.isLower = true) :
    sameLetter l c = true ↔ foldCase c = l := by
  by_cases hc : c = 'ſ'
  · subst hc
    have hne : 'ſ' ≠ l ∧ 'ſ' ≠ l.toUpper := by
      constructor <;> rintro h
      · rw [← h] at hl
        cases hl
      · have hlow := (toLower_eq_iff hl).mpr (.inr h)
        rw [← hlow] at hl
        cases hl
    simp [sameLetter, foldCase, hne, eq_comm]
  · simp [sameLetter, foldCase, hc, toLower_eq_iff hl]

theorem all_sameLetter_iff {word ending : Text} (hw : ∀ l ∈ word, l.isLower = true)
    (hlen : ending.length = word.length) :
    (List.zipWith sameLetter word ending).all id = true ↔ ending.map foldCase = word := by
  induction word generalizing ending with
  | nil =>
    obtain rfl := List.length_eq_zero_iff.mp hlen
    simp
  | cons l word ih =>
    obtain ⟨c, ending, rfl⟩ := List.exists_cons_of_length_eq_add_one hlen
    obtain ⟨hl, hw⟩ := List.forall_mem_cons.mp hw
    have htail := ih hw (Nat.succ.inj hlen)
    rw [List.zipWith_cons_cons, List.all_cons, Bool.and_eq_true, htail, List.map_cons,
      List.cons.injEq]
    exact and_congr_left fun _ => sameLetter_iff hl

theorem endsIn_iff {word name : Text} (hw : ∀ l ∈ word, l.isLower = true) :
    (decide (word.length ≤ name.length) &&
        (List.zipWith sameLetter word (name.drop (name.length - word.length))).all id) = true ↔
      ∃ start ending, name = start ++ ending ∧ ending.map foldCase = word := by
  rw [Bool.and_eq_true, decide_eq_true_iff]
  constructor
  · rintro ⟨hle, hall⟩
    have hlen : (name.drop (name.length - word.length)).length = word.length := by
      rw [List.length_drop]
      omega
    exact ⟨_, _, (List.take_append_drop _ name).symm, (all_sameLetter_iff hw hlen).mp hall⟩
  · rintro ⟨start, ending, rfl, he⟩
    have hlen : ending.length = word.length := by rw [← he, List.length_map]
    have hdrop : (start ++ ending).drop ((start ++ ending).length - word.length) = ending := by
      rw [List.length_append, hlen, Nat.add_sub_cancel, List.drop_left]
    rw [hdrop, List.length_append, hlen]
    exact ⟨Nat.le_add_left _ _, (all_sameLetter_iff hw hlen).mpr he⟩

theorem isCountName_iff {name : Text} : isCountName name = true ↔ EndsInCount name := by
  have hword : ∀ l ∈ "counts".toList, l.isLower = true := by decide
  have hcount : ∀ l ∈ "count".toList, l.isLower = true := by decide
  have hboth : isCountName name = true ↔ _ :=
    (Bool.or_eq_true _ _).to_iff.trans (or_congr (endsIn_iff hcount) (endsIn_iff hword))
  rw [hboth, EndsInCount]
  constructor
  · rintro (⟨start, ending, hn, he⟩ | ⟨start, ending, hn, he⟩)
    · exact ⟨start, ending, hn, .inl he⟩
    · exact ⟨start, ending, hn, .inr he⟩
  · rintro ⟨start, ending, hn, he | he⟩
    · exact .inl ⟨start, ending, hn, he⟩
    · exact .inr ⟨start, ending, hn, he⟩

/-! ### Leading `const` -/

/-- A text whose first word is `const`. -/
def LeadsWithConst (t : Text) : Prop := ∃ r, trim t = "const".toList ++ r ∧ atWord r = false

theorem isSome_dropConst?_iff {t : Text} :
    (Tokens.dropConst? (trim t)).isSome = true ↔ LeadsWithConst t := by
  simp only [Tokens.dropConst?, Option.bind_eq_bind, LeadsWithConst, ← dropPrefix?_eq_some_iff]
  cases dropPrefix? "const".toList (trim t) with
  | none => simp
  | some r => cases hr : atWord r <;> simp [hr]

/-! ### Shapes of a registry -/

theorem kind_builtin? {t : Text} {s : Shape} (h : NativeType.builtin? t = .ok (some s)) :
    s.kind ≠ .matrix ∧ (s.kind = .void → t = "void".toList) := by
  by_cases hv : t = "void".toList
  · subst hv
    cases h
    exact ⟨nofun, fun _ => rfl⟩
  · unfold NativeType.builtin? at h
    cases hs : NativeType.sizedName? t with
    | none =>
      simp only [hs, hv, if_false] at h
      split_ifs at h <;> cases h <;> exact ⟨nofun, nofun⟩
    | some p =>
      simp only [hs] at h
      split_ifs at h <;> cases h <;> exact ⟨nofun, nofun⟩

/-- All that a registry knows of a type: it is a matrix, or it is void exactly if it is an alias of
`void` or `void` itself. -/
theorem shape_of_find? {registry : Registry} {base : Text} {s : Shape}
    (h : registry.find? base = .ok (some s)) :
    s = ⟨.matrix, .native, 0⟩ ∨
      s.kind ≠ .matrix ∧ (s.kind = .void ↔ registry.resolve base = .text "void".toList) := by
  unfold Registry.find? at h
  split_ifs at h
  · cases h
    exact .inl rfl
  · refine .inr ?_
    split at h
    · next t ht =>
      obtain ⟨found, hb, h⟩ := bind_eq_ok_iff.mp h
      have hvoid : registry.resolve base = .text "void".toList ↔ t = "void".toList := by
        rw [ht, Datum.text.injEq]
      rw [hvoid]
      cases found with
      | some s' =>
        cases h
        obtain ⟨hm, hv⟩ := kind_builtin? hb
        refine ⟨hm, hv, ?_⟩
        rintro rfl
        cases hb
        rfl
      | none =>
        have hne : t ≠ "void".toList := by
          rintro rfl
          cases hb
        obtain ⟨v, -, rfl⟩ := Option.map_eq_some_iff.mp (Except.ok.inj h)
        exact ⟨nofun, iff_of_false nofun hne⟩
    · next b hb =>
      obtain ⟨v, -, rfl⟩ := Option.map_eq_some_iff.mp (Except.ok.inj h)
      exact ⟨nofun, iff_of_false nofun fun hvoid => by rw [hb] at hvoid; cases hvoid⟩
    · cases h

/-! ### Descriptors -/

namespace Descriptor

/-- What is passed by value has the element type and the length that the registry gives its type. -/
structure IsValue (registry : Registry) (d : Descriptor) : Prop where
  kind : d.kind = .scalar ∨ d.kind = .vector
  pointerDepth : d.pointerDepth = 0
  shape : ∃ length, registry.find? d.type = .ok (some ⟨d.kind, d.element, length⟩) ∧
    d.axes = [.size length]

/-- A matrix is passed by one pointer. Its two axes are named after it, it is written unless it is
`const`, and it holds integers exactly if it counts something. -/
structure IsMatrixArgument (registry : Registry) (d : Descriptor) : Prop where
  kind : d.kind = .matrix
  type : registry.find? d.type = .ok (some ⟨.matrix, .native, 0⟩)
  pointerDepth : d.pointerDepth = 1
  axisName : axisName d.name ≠ []
  axes : d.axes =
    [.named (Argument.axisName d.name ++ ['0']), .named (Argument.axisName d.name ++ ['1'])]
  role : d.role = if d.isConst then .input else .inout
  int : EndsInCount d.name → d.element = .int
  native : ¬EndsInCount d.name → d.element = .native

/-- A result is written under the return name. -/
structure IsSlot (registry : Registry) (returnName : Text) (d : Descriptor) : Prop where
  isReturn : d.isReturn = true
  name : d.name = returnName
  role : d.role = .output
  value : d.IsValue registry

/-- An argument bears the name that its fragment gives it. -/
structure IsArgument (registry : Registry) (t : Text) (d : Descriptor) : Prop where
  isReturn : d.isReturn = false
  tokens : ∃ tokens, Tokens.read false t = .ok tokens ∧ tokens.name = some d.name ∧
    tokens.baseType = d.type ∧ tokens.qualifiers = d.qualifiers
  isConst : d.isConst = true ↔ LeadsWithConst t
  passed : d.IsMatrixArgument registry ∨ d.IsValue registry ∧ d.role = .input

end Descriptor

section Classified
variable {registry : Registry} {returnName t : Text}

theorem isValue_of_shape {isReturn : Bool} {tokens : Tokens} {s : Shape} {d : Descriptor}
    (hs : shapeOf registry isReturn tokens = .ok s) (hm : s.kind ≠ .matrix) (hv : s.kind ≠ .void)
    (ht : d.type = tokens.baseType) (hd : d.pointerDepth = tokens.pointerDepth)
    (hk : d.kind = s.kind) (he : d.element = elementOf tokens s)
    (ha : axesOf tokens s = .ok d.axes) : d.IsValue registry := by
  obtain ⟨hf, -, hdepth, -⟩ := shapeOf_eq_ok hs
  have helement : d.element = s.element := by simp [he, elementOf, hm]
  refine ⟨?_, hd.trans (hdepth hm), s.length, ?_, (axesOf_eq_ok ha).2 hm⟩
  · rw [hk]
    cases h : s.kind with
    | matrix => exact absurd h hm
    | void => exact absurd h hv
    | scalar => exact .inl rfl
    | vector => exact .inr rfl
  · rw [ht, hk, helement]
    exact hf

/-- A return type that is accepted gives a result, or nothing if it is void. -/
theorem classify_return {o : Option Descriptor}
    (h : classify registry returnName true t = .ok o) :
    ∃ tokens, Tokens.read true t = .ok tokens ∧
      (o = none ↔ registry.resolve tokens.baseType = .text "void".toList) ∧
      ∀ d ∈ o, d.IsSlot registry returnName := by
  obtain ⟨tokens, s, ht, hs, hnone, hd⟩ := classify_eq_ok h
  obtain ⟨hf, hmatrix, -, -⟩ := shapeOf_eq_ok hs
  have hm : s.kind ≠ .matrix := fun hk => Bool.false_ne_true (hmatrix hk).1.symm
  refine ⟨tokens, ht, ?_, fun d hmem => ?_⟩
  · rcases shape_of_find? hf with rfl | ⟨-, hv⟩
    · exact absurd rfl hm
    · exact hnone.trans hv
  · obtain ⟨htype, hdepth, -, hkind, -, hname, hrole, helement, haxes, hreturn⟩ := hd d hmem
    have hv : s.kind ≠ .void := by
      intro hk
      rw [hnone.mpr hk] at hmem
      cases hmem
    exact ⟨hreturn, hname, hrole, isValue_of_shape hs hm hv htype hdepth hkind helement haxes⟩

/-- A fragment that is accepted gives an argument. -/
theorem classify_fragment {o : Option Descriptor}
    (h : classify registry returnName false t = .ok o) :
    ∃ d, o = some d ∧ d.IsArgument registry t := by
  obtain ⟨tokens, s, ht, hs, hnone, hd⟩ := classify_eq_ok h
  obtain ⟨hf, hmatrix, -, hvoid⟩ := shapeOf_eq_ok hs
  have hv : s.kind ≠ .void := fun hk => Bool.false_ne_true (hvoid hk)
  cases o with
  | none => exact absurd (hnone.mp rfl) hv
  | some d =>
    obtain ⟨htype, hdepth, hconst, hkind, hqualifiers, hname, hrole, helement, haxes, hreturn⟩ :=
      hd d rfl
    have hread := Tokens.readFrom_of_read ht
    obtain ⟨name, hn, -⟩ := hread.name rfl
    have hdname : d.name = name := by rw [hname, hn]; rfl
    refine ⟨d, rfl, hreturn, ⟨tokens, ht, hdname ▸ hn, htype.symm, hqualifiers.symm⟩, ?_, ?_⟩
    · rw [hconst, hread.isConst]
      exact isSome_dropConst?_iff
    by_cases hm : s.kind = .matrix
    · obtain rfl | ⟨hnot, -⟩ := shape_of_find? hf
      · refine .inl ?_
        obtain ⟨-, hone⟩ := hmatrix rfl
        obtain ⟨-, hne, hboth⟩ :=
          (isClassified_of_classify h d rfl).matrix (decide_eq_true hkind)
        have hcount : elementOf tokens ⟨.matrix, .native, 0⟩ =
            if isCountName d.name then .int else .native := by
          simp [elementOf, hn, hdname]
        refine ⟨hkind, htype ▸ hf, ?_, hne, hboth, ?_, fun hc => ?_, fun hc => ?_⟩
        · rw [hdepth]
          exact le_antisymm hread.pointerDepth hone
        · rw [hrole, roleOf, hconst]
          cases tokens.isConst <;> rfl
        · rw [helement, hcount, if_pos (isCountName_iff.mpr hc)]
        · rw [helement, hcount, if_neg (mt isCountName_iff.mp hc)]
      · exact absurd hm hnot
    · refine .inr ⟨isValue_of_shape hs hm hv htype hdepth hkind helement haxes, ?_⟩
      rw [hrole]
      simp [roleOf, hm]

end Classified

/-- The descriptors of a declaration: first the result, which is missing exactly if the return type
stands for `void`, then one argument for each fragment of the argument list, in order. -/
theorem isWellFormed_classifyAll {registry : Registry} {returnName returnType arguments : Text}
    {ds : List Descriptor} (h : classifyAll registry returnName returnType arguments = .ok ds) :
    ∃ tokens fragments slot rest, Tokens.read true returnType = .ok tokens ∧
      split arguments = .ok fragments ∧ ds = slot.toList ++ rest ∧
      (slot = none ↔ registry.resolve tokens.baseType = .text "void".toList) ∧
      (∀ d ∈ slot, d.IsSlot registry returnName) ∧
      List.Forall₂ (fun t d => d.IsArgument registry t) fragments rest := by
  obtain ⟨slot, fragments, found, hslot, hsplit, hfound, rfl⟩ := classifyAll_eq_ok h
  obtain ⟨tokens, ht, hvoid, hresult⟩ := classify_return hslot
  have hrest : ∃ rest, found = rest.map some ∧
      List.Forall₂ (fun t d => d.IsArgument registry t) fragments rest := by
    clear hsplit h
    induction hfound with
    | nil => exact ⟨[], rfl, .nil⟩
    | cons hfirst _ ih =>
      obtain ⟨d, rfl, hd⟩ := classify_fragment hfirst
      obtain ⟨rest, rfl, hrest⟩ := ih
      exact ⟨d :: rest, rfl, .cons hd hrest⟩
  obtain ⟨rest, rfl, hrest⟩ := hrest
  refine ⟨tokens, fragments, slot, rest, ht, hsplit, ?_, hvoid, hresult, hrest⟩
  cases slot <;> simp [List.filterMap_map]

/-- A registry with aliases for a matrix type and for `void`, and with a vector of its own. -/
def aliasRegistry : Registry :=
  ⟨[(.text "Arr".toList, .text "CvMat".toList), (.text "none".toList, .text "void".toList)],
    [.text "CvMat".toList], [⟨some (.ofText "Rect".toList), .int, 4⟩]⟩

theorem isWellFormed_classifyAll_aliases :
    ∃ ds fragments,
      classifyAll aliasRegistry "res".toList "none".toList
        "const Arr* a_b, Arr* n_Count, Rect r".toList = .ok ds ∧
      split "const Arr* a_b, Arr* n_Count, Rect r".toList = .ok fragments ∧
      List.Forall₂ (fun t d => d.IsArgument aliasRegistry t) fragments ds := by
  have h : ∃ ds, classifyAll aliasRegistry "res".toList "none".toList
      "const Arr* a_b, Arr* n_Count, Rect r".toList = .ok ds := ⟨_, rfl⟩
  obtain ⟨ds, h⟩ := h
  obtain ⟨tokens, fragments, slot, rest, ht, hs, rfl, hvoid, -, hrest⟩ :=
    isWellFormed_classifyAll h
  have hread : tokens.baseType = "none".toList := by cases ht; rfl
  have hslot : slot = none := hvoid.mpr (by rw [hread]; rfl)
  subst hslot
  exact ⟨_, fragments, h, hs, hrest⟩

end HeaderBindings.Argument
