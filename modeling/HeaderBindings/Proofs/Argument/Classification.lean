import HeaderBindings.Argument.Descriptor
import HeaderBindings.Proofs.Steps
import HeaderBindings.Proofs.Text.Pieces

/-!
# What an accepted text went through

Classification of a text succeeds only if each of its stages does. Here each stage is opened once:
what its success says of the tokens, of the shape, and of the descriptor, and, for a declaration,
that the descriptors are those of the return type and of the fragments in order.
-/
namespace HeaderBindings.Argument

open NativeType (Registry Shape)
open Text

/-! ### The stages -/

/-- What the tokens of a text are. -/
structure Tokens.ReadFrom (isReturn : Bool) (t : Text) (tokens : Tokens) : Prop where
  baseType : isName tokens.baseType = true
  name : isReturn = false → ∃ name, tokens.name = some name ∧ isName name = true
  isConst : tokens.isConst = (Tokens.dropConst? (trim t)).isSome
  pointerDepth : tokens.pointerDepth ≤ 1

theorem Tokens.readFrom_of_read {isReturn : Bool} {t : Text} {tokens : Tokens}
    (h : Tokens.read isReturn t = .ok tokens) : tokens.ReadFrom isReturn t := by
  unfold Tokens.read at h
  dsimp only at h
  split at h
  · cases h
  · next baseType r hbase =>
    obtain ⟨⟨name, qualifiers⟩, hname, h⟩ := bind_eq_ok_iff.mp h
    dsimp only at h
    split_ifs at h with hdepth
    cases h
    refine ⟨isName_of_readName? hbase, ?_, rfl, not_lt.mp hdepth⟩
    rintro rfl
    unfold Tokens.readName at hname
    rw [if_neg Bool.false_ne_true] at hname
    split at hname
    · next found q hfound =>
      cases hname
      exact ⟨found, rfl, isName_of_readName? hfound⟩
    · cases hname

/-- A shape that is accepted is the one of the base type. Matrices are passed by pointer and not
returned, all else is passed by value, and only a result may be void. -/
theorem shapeOf_eq_ok {registry : Registry} {isReturn : Bool} {tokens : Tokens} {s : Shape}
    (h : shapeOf registry isReturn tokens = .ok s) :
    registry.find? tokens.baseType = .ok (some s) ∧
      (s.kind = .matrix → isReturn = false ∧ 1 ≤ tokens.pointerDepth) ∧
      (s.kind ≠ .matrix → tokens.pointerDepth = 0) ∧ (s.kind = .void → isReturn = true) := by
  unfold shapeOf at h
  split at h
  · cases h
  · cases h
  · cases h
  · next shape hf =>
    rw [hf]
    split_ifs at h with hm hd hr hp hv <;> cases h
    · refine ⟨rfl, fun _ => ⟨by simpa using hr, by omega⟩, fun hn => absurd hm hn, fun hv => ?_⟩
      rw [hm] at hv
      cases hv
    · exact ⟨rfl, fun hk => absurd hk hm, fun _ => by omega, fun hk => by simpa [hk] using hv⟩

/-- Axes that are accepted: two that are named after a matrix, or one of the size of the shape. -/
theorem axesOf_eq_ok {tokens : Tokens} {s : Shape} {axes : List Axis}
    (h : axesOf tokens s = .ok axes) :
    (s.kind = .matrix → ∃ axis, axis = (tokens.name.getD []).filter (· ≠ '_') ∧ axis ≠ [] ∧
      axes = [.named (axis ++ ['0']), .named (axis ++ ['1'])]) ∧
    (s.kind ≠ .matrix → axes = [.size s.length]) := by
  unfold axesOf at h
  dsimp only at h
  split_ifs at h with hm he <;> cases h
  · exact ⟨fun _ => ⟨_, rfl, by simpa using he, rfl⟩, fun hn => absurd hm hn⟩
  · exact ⟨fun hk => absurd hk hm, fun _ => rfl⟩

/-- What is made of a text: nothing of void, else the descriptor of its tokens and its shape. -/
theorem classify_eq_ok {registry : Registry} {returnName : Text} {isReturn : Bool} {t : Text}
    {o : Option Descriptor} (h : classify registry returnName isReturn t = .ok o) :
    ∃ tokens shape, Tokens.read isReturn t = .ok tokens ∧
      shapeOf registry isReturn tokens = .ok shape ∧ (o = none ↔ shape.kind = .void) ∧
      ∀ d ∈ o, d.type = tokens.baseType ∧ d.pointerDepth = tokens.pointerDepth ∧
        d.isConst = tokens.isConst ∧ d.kind = shape.kind ∧ d.qualifiers = tokens.qualifiers ∧
        d.name = (if isReturn then returnName else tokens.name.getD []) ∧
        d.role = roleOf isReturn tokens shape ∧ d.element = elementOf tokens shape ∧
        axesOf tokens shape = .ok d.axes ∧ d.isReturn = isReturn := by
  unfold classify at h
  obtain ⟨tokens, ht, h⟩ := bind_eq_ok_iff.mp h
  obtain ⟨shape, hs, h⟩ := bind_eq_ok_iff.mp h
  refine ⟨tokens, shape, mapError_eq_ok_iff.mp ht, hs, ?_⟩
  by_cases hv : shape.kind = .void
  · rw [if_pos hv] at h
    cases h
    exact ⟨iff_of_true rfl hv, by simp⟩
  · rw [if_neg hv] at h
    obtain ⟨axes, ha, h⟩ := bind_eq_ok_iff.mp h
    cases h
    refine ⟨iff_of_false (by simp) hv, ?_⟩
    rintro d ⟨⟩
    exact ⟨rfl, rfl, rfl, rfl, rfl, rfl, rfl, rfl, mapError_eq_ok_iff.mp ha, rfl⟩

/-- A declaration is classified by its return type and then by each argument. -/
theorem classifyAll_eq (registry : Registry) (returnName returnType arguments : Text) :
    classifyAll registry returnName returnType arguments = (do
    let slot ← classify registry returnName true returnType
    let fragments ← (split arguments).mapError .rejected
    let found ← fragments.mapM (classify registry returnName false)
    .ok ((slot :: found).filterMap id)) := by
  unfold classifyAll outcomes
  rw [List.mapM_cons]
  cases classify registry returnName true returnType with
  | error e => rfl
  | ok slot =>
    cases split arguments with
    | error r => rfl
    | ok ts =>
      have hfound : (ts.map fun t => (t, classify registry returnName false t)).mapM (·.2) =
          ts.mapM (classify registry returnName false) := List.mapM_map
      simp only [Except.mapError, bind, Except.bind, hfound]
      cases ts.mapM (classify registry returnName false) <;> rfl

/-- The descriptors of a declaration are those of its return type and of its fragments. -/
theorem classifyAll_eq_ok {registry : Registry} {returnName returnType arguments : Text}
    {ds : List Descriptor} (h : classifyAll registry returnName returnType arguments = .ok ds) :
    ∃ slot fragments found, classify registry returnName true returnType = .ok slot ∧
      split arguments = .ok fragments ∧
      List.Forall₂ (fun t o => classify registry returnName false t = .ok o) fragments found ∧
      ds = (slot :: found).filterMap id := by
  rw [classifyAll_eq] at h
  obtain ⟨slot, hslot, h⟩ := bind_eq_ok_iff.mp h
  obtain ⟨fragments, hsplit, h⟩ := bind_eq_ok_iff.mp h
  obtain ⟨found, hfound, h⟩ := bind_eq_ok_iff.mp h
  cases h
  exact ⟨slot, fragments, found, hslot, mapError_eq_ok_iff.mp hsplit,
    forall₂_of_mapM_eq_ok hfound, rfl⟩

/-! ### Tokens that differ in texts -/

/-- Two refusals for one reason. Rejections quote the one text and the other. -/
inductive Refusal.Requotes (t u : Text) : Refusal → Refusal → Prop
  | rejected (cause : Cause) : Requotes t u (.rejected ⟨cause, t⟩) (.rejected ⟨cause, u⟩)
  | misuse (cause : Misuse) : Requotes t u (.misuse cause) (.misuse cause)

section Texts
variable {registry : Registry} {returnName : Text} {isReturn : Bool}

theorem parallel_shapeOf (tokens : Tokens) (text q : Text) :
    Parallel (Refusal.Requotes tokens.text text) Eq (shapeOf registry isReturn tokens)
      (shapeOf registry isReturn { tokens with text := text, qualifiers := q }) := by
  unfold shapeOf
  dsimp only
  rcases registry.find? tokens.baseType with (⟨base, bits⟩ | cause) | _ | shape
  · exact .error (.rejected _)
  · exact .error (.misuse cause)
  · exact .error (.rejected _)
  · dsimp only
    split_ifs
    all_goals first | exact .ok rfl | exact .error (.rejected _)

theorem parallel_axesOf (tokens : Tokens) (text q : Text) (shape : Shape) :
    Parallel (Refusal.Requotes tokens.text text) Eq ((axesOf tokens shape).mapError .rejected)
      ((axesOf { tokens with text := text, qualifiers := q } shape).mapError .rejected) := by
  unfold axesOf
  dsimp only
  split_ifs
  · exact .error (.rejected _)
  · exact .ok rfl
  · exact .ok rfl

/-- Of the tokens of a text, classification quotes the text and hands on the trailing text. -/
theorem parallel_classify {E : Refusal → Refusal → Prop} {T : Tokens → Tokens → Prop} {t u : Text}
    (hread : Parallel (fun r r' => E (.rejected r) (.rejected r')) T (Tokens.read isReturn t)
      (Tokens.read isReturn u))
    (hT : ∀ x y, T x y → y = { x with text := y.text, qualifiers := y.qualifiers } ∧
      ∀ r r', Refusal.Requotes x.text y.text r r' → E r r') :
    Parallel E (Option.Rel fun d d' => ∃ x y, T x y ∧ d.qualifiers = x.qualifiers ∧
        d' = { d with qualifiers := y.qualifiers })
      (classify registry returnName isReturn t) (classify registry returnName isReturn u) := by
  unfold classify
  refine (hread.mapError fun _ _ h => h).bind fun x y hxy => ?_
  obtain ⟨hy, hE⟩ := hT x y hxy
  rw [hy]
  refine ((parallel_shapeOf x y.text y.qualifiers).mono hE fun _ _ _ h => h).bind ?_
  rintro shape _ rfl
  by_cases hv : shape.kind = .void
  · rw [if_pos hv, if_pos hv]
    exact .ok .none
  · rw [if_neg hv, if_neg hv]
    refine ((parallel_axesOf x y.text y.qualifiers shape).mono hE fun _ _ _ h => h).bind ?_
    rintro axes _ rfl
    exact .ok (.some ⟨x, y, hxy, rfl, rfl⟩)

end Texts

/-! ### Descriptors -/

/-- What holds of the descriptor of a text, whatever the registry knows. -/
structure Descriptor.IsClassified (registry : Registry) (returnName : Text) (isReturn : Bool)
    (d : Descriptor) : Prop where
  isReturn_eq : d.isReturn = isReturn
  type : isName d.type = true
  name : if isReturn then d.name = returnName else isName d.name = true
  matrix : d.isMatrix = true → isReturn = false ∧ d.name.filter (· ≠ '_') ≠ [] ∧
    d.axes = [.named (d.name.filter (· ≠ '_') ++ ['0']), .named (d.name.filter (· ≠ '_') ++ ['1'])]
  value : d.isMatrix = false → ∃ shape, registry.find? d.type = .ok (some shape) ∧
    d.axes = [.size shape.length]

theorem isClassified_of_classify {registry : Registry} {returnName : Text} {isReturn : Bool}
    {t : Text} {o : Option Descriptor} (h : classify registry returnName isReturn t = .ok o) :
    ∀ d ∈ o, d.IsClassified registry returnName isReturn := by
  intro d hd
  obtain ⟨tokens, shape, ht, hs, -, ho⟩ := classify_eq_ok h
  obtain ⟨htype, -, -, hkind, -, hname, -, -, haxes, hreturn⟩ := ho d hd
  have hread := Tokens.readFrom_of_read ht
  obtain ⟨hfind, hmatrix, -, -⟩ := shapeOf_eq_ok hs
  refine ⟨hreturn, htype ▸ hread.baseType, ?name, fun hm => ?matrix, fun hm => ?value⟩
  case name =>
    cases isReturn with
    | true => exact hname
    | false =>
      obtain ⟨name, hn, hword⟩ := hread.name rfl
      rw [hname, hn]
      exact hword
  case matrix =>
    have hk : shape.kind = .matrix := hkind ▸ of_decide_eq_true hm
    obtain ⟨axis, haxis, hne, hboth⟩ := (axesOf_eq_ok haxes).1 hk
    have hfalse := (hmatrix hk).1
    rw [hfalse, if_neg Bool.false_ne_true] at hname
    subst haxis
    exact ⟨hfalse, hname ▸ hne, hname ▸ hboth⟩
  case value =>
    have hk : shape.kind ≠ .matrix := hkind ▸ of_decide_eq_false hm
    exact ⟨shape, htype ▸ hfind, (axesOf_eq_ok haxes).2 hk⟩

/-- Among the descriptors of a declaration only the first may be of a result. -/
theorem isClassified_of_classifyAll {registry : Registry} {returnName returnType arguments : Text}
    {ds : List Descriptor} (h : classifyAll registry returnName returnType arguments = .ok ds) :
    ∃ slot rest, ds = Option.toList slot ++ rest ∧
      (∀ d ∈ slot, d.IsClassified registry returnName true) ∧
      ∀ d ∈ rest, d.IsClassified registry returnName false := by
  obtain ⟨slot, fragments, found, hslot, -, hfound, rfl⟩ := classifyAll_eq_ok h
  have hrest : ∀ d, some d ∈ found → d.IsClassified registry returnName false := by
    clear h
    induction hfound with
    | nil => exact nofun
    | cons hfirst _ ih =>
      intro d hd
      rcases List.mem_cons.mp hd with rfl | hd
      · exact isClassified_of_classify hfirst d rfl
      · exact ih d hd
  refine ⟨slot, found.filterMap id, ?_, isClassified_of_classify hslot, fun d hd => ?_⟩
  · cases slot <;> rfl
  · exact hrest d (by simpa using hd)

theorem exists_isClassified {registry : Registry} {returnName returnType arguments : Text}
    {ds : List Descriptor} (h : classifyAll registry returnName returnType arguments = .ok ds) :
    ∀ d ∈ ds, ∃ isReturn, d.IsClassified registry returnName isReturn := by
  obtain ⟨slot, rest, rfl, hslot, hrest⟩ := isClassified_of_classifyAll h
  intro d hd
  rcases List.mem_append.mp hd with hd | hd
  · exact ⟨true, hslot d (Option.mem_toList.mp hd)⟩
  · exact ⟨false, hrest d hd⟩

end HeaderBindings.Argument
