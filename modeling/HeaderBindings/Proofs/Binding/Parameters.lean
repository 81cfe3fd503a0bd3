import HeaderBindings.Proofs.Argument.WellFormed
import HeaderBindings.Proofs.Binding.Account
import HeaderBindings.Proofs.Call.Agreement

/-!
# Names of parameters

The parameters of a binding are the result, under the return name, and the arguments, under the
names that they have in the declaration. The return name is configured and compared with no other.
So parameters have different names if the arguments have and none of them has the return name.
-/
namespace HeaderBindings.Binding

open Argument (Descriptor Tokens)
open Call (IsSymbol)
open Header (Declaration)
open NativeType (Registry)

/-! ### Names in declarations -/

/-- The name that stands in an argument. -/
def ownName? (t : Text) : Option Text :=
  match Tokens.read false t with
  | .ok tokens => tokens.name
  | .error _ => none

/-- The names that stand in an argument list, in order. -/
def ownNames (arguments : Text) : List Text :=
  match Argument.split arguments with
  | .ok fragments => fragments.filterMap ownName?
  | .error _ => []

/-- A return type that stands for `void`. -/
def ReturnsVoid (registry : Registry) (returnType : Text) : Prop :=
  ∃ tokens, Tokens.read true returnType = .ok tokens ∧
    registry.resolve tokens.baseType = .text "void".toList

section Declared
variable {registry : Registry} {returnName returnType arguments : Text}

theorem ownName?_of_isArgument {t : Text} {d : Descriptor} (h : d.IsArgument registry t) :
    ownName? t = some d.name := by
  obtain ⟨tokens, hread, hname, -⟩ := h.tokens
  rw [ownName?, hread]
  exact hname

/-- The descriptors of a declaration: the result, unless the return type stands for `void`, and
arguments with their own names. -/
theorem names_of_classifyAll {ds : List Descriptor}
    (h : Argument.classifyAll registry returnName returnType arguments = .ok ds) :
    ∃ slot rest, ds = Option.toList slot ++ rest ∧ rest.map (·.name) = ownNames arguments ∧
      (∀ d ∈ slot, d.isReturn = true ∧ d.name = returnName) ∧
      (∀ d ∈ rest, d.isReturn = false) ∧ (slot = none ↔ ReturnsVoid registry returnType) := by
  obtain ⟨slot, fragments, found, hslot, hsplit, hfound, rfl⟩ := Argument.classifyAll_eq_ok h
  obtain ⟨tokens, hread, hvoid, hresult⟩ := Argument.classify_return hslot
  have hrest : (found.filterMap id).map (·.name) = fragments.filterMap ownName? ∧
      ∀ d ∈ found.filterMap id, d.isReturn = false := by
    clear h hsplit
    induction hfound with
    | nil => exact ⟨rfl, nofun⟩
    | cons hfirst _ ih =>
      obtain ⟨d, rfl, hd⟩ := Argument.classify_fragment hfirst
      rw [List.filterMap_cons_some (f := id) rfl,
        List.filterMap_cons_some (ownName?_of_isArgument hd), List.map_cons, ih.1]
      exact ⟨rfl, List.forall_mem_cons.mpr ⟨hd.isReturn, ih.2⟩⟩
  refine ⟨slot, found.filterMap id, ?_, ?_, fun d hd => ?_, hrest.2, hvoid.trans ?_⟩
  · cases slot <;> rfl
  · rw [hrest.1, ownNames, hsplit]
  · exact ⟨(hresult d hd).isReturn, (hresult d hd).name⟩
  · refine ⟨fun hv => ⟨tokens, hread, hv⟩, ?_⟩
    rintro ⟨tokens', hread', hv⟩
    rw [hread] at hread'
    cases hread'
    exact hv

end Declared

/-! ### Names in bindings -/

/-- How the parameters of a binding are named. -/
structure NamesParameters (rules : Rules) (d : Declaration) (f : BoundFunction) : Prop where
  /-- The declaration string is that of the descriptors. -/
  written : f.parameters = Parameter.writeAll (f.arguments.map (·.toParameter))
  /-- Their names can be read from it if the return name is a symbol. -/
  declared : IsSymbol rules.returnName →
    (Parameter.declaredIn f.parameters).map Prod.fst = f.arguments.map (·.name)
  names : f.arguments.map (·.name) =
    (if f.hasReturn then [rules.returnName] else []) ++ ownNames d.arguments
  hasReturn : f.hasReturn = true ↔ ¬ReturnsVoid rules.types d.returnType
  nodup_iff : (ownNames d.arguments).Nodup → ((f.arguments.map (·.name)).Nodup ↔
    (f.hasReturn = true → rules.returnName ∉ ownNames d.arguments))

section Bound
variable {rules : Rules} {source : Text} {d : Declaration} {f : BoundFunction}

theorem classifyAll_of_bind (h : (rules.bind source d).result = .ok f) :
    Argument.classifyAll rules.types rules.returnName d.returnType d.arguments =
      .ok f.arguments ∧ f.parameters = Descriptor.signature f.arguments := by
  obtain ⟨p, short, arguments, -, -, harguments, rfl⟩ := Generator.bind_eq_ok h
  exact ⟨harguments, rfl⟩

/-- Every binding names its parameters so: names of arguments that differ stay different, and only
the return name may be one of them. -/
theorem namesParameters_bind (h : (rules.bind source d).result = .ok f) :
    NamesParameters rules d f := by
  obtain ⟨hall, hparameters⟩ := classifyAll_of_bind h
  obtain ⟨slot, rest, hds, hrest, hslot, hargument, hvoid⟩ := names_of_classifyAll hall
  have hreturn : f.hasReturn = slot.isSome := by
    rw [BoundFunction.hasReturn, hds]
    cases slot with
    | some s => simpa using (hslot s rfl).1
    | none =>
      cases rest with
      | nil => rfl
      | cons e rest => simpa using hargument e List.mem_cons_self
  have hnames : f.arguments.map (·.name) =
      (if f.hasReturn then [rules.returnName] else []) ++ ownNames d.arguments := by
    rw [hreturn, hds, List.map_append, hrest]
    cases slot with
    | none => rfl
    | some s => simp [(hslot s rfl).2]
  refine ⟨hparameters, fun hsymbol => ?_, hnames, ?_, fun hnodup => ?_⟩
  · have hplain : ∀ e ∈ f.arguments, e.IsPlain := by
      intro e he
      obtain ⟨isReturn, hclassified⟩ := Argument.exists_isClassified hall e he
      exact Argument.isPlain_of_isClassified (fun _ => hsymbol) hclassified
    rw [hparameters, Call.declaredIn_signature hplain, List.map_map]
    rfl
  · rw [hreturn, ← hvoid, Option.isSome_iff_ne_none]
  · rw [hnames]
    cases f.hasReturn <;> simp [hnodup]

end Bound

/-- The parameters of a binding and the names in it, where there is one. -/
def shownNames (a : Attempt) : Option (Text × List Text) :=
  a.result.toOption.map fun f => (f.parameters, f.arguments.map (·.name))

theorem bound_of_shownNames {a : Attempt} {p : Text × List Text} (h : shownNames a = some p) :
    ∃ f, a.result = .ok f ∧ f.parameters = p.1 ∧ f.arguments.map (·.name) = p.2 := by
  cases ha : a.result with
  | error e =>
    rw [shownNames, ha] at h
    cases h
  | ok f =>
    rw [shownNames, ha] at h
    cases h
    exact ⟨f, rfl, rfl, rfl⟩

/-- A result and two arguments, none of which has the return name. -/
theorem namesParameters_bind_distinct : ∃ rules : Rules, ∃ f,
    (rules.bind [] ⟨"int".toList, "cvF".toList, "int a, CvMat* b".toList, 1⟩).result = .ok f ∧
      NamesParameters rules ⟨"int".toList, "cvF".toList, "int a, CvMat* b".toList, 1⟩ f ∧
      (f.arguments.map (·.name)).Nodup := by
  have hbind : shownNames (Rules.bind
      ⟨.text "cv".toList, "retval".toList, true, Registry.standard, []⟩ []
      ⟨"int".toList, "cvF".toList, "int a, CvMat* b".toList, 1⟩) =
        some ("int [o] retval(1); int a(1); [io] b(b0,b1)".toList,
          ["retval".toList, ['a'], ['b']]) := by decide +kernel
  obtain ⟨f, hf, -, -⟩ := bound_of_shownNames hbind
  have hnames := namesParameters_bind hf
  refine ⟨_, f, hf, hnames, (hnames.nodup_iff (by decide)).mpr fun _ => by decide⟩

/-- An argument under the return name: two parameters have one name. -/
theorem duplicate_returnName : ∃ rules : Rules, ∃ f,
    (rules.bind [] ⟨"int".toList, "cvF".toList, "int retval".toList, 1⟩).result = .ok f ∧
      rules.returnName = "retval".toList ∧ (ownNames "int retval".toList).Nodup ∧
      f.parameters = "int [o] retval(1); int retval(1)".toList ∧
      ¬(f.arguments.map (·.name)).Nodup := by
  have hbind : shownNames (Rules.bind
      ⟨.text "cv".toList, "retval".toList, true, Registry.standard, []⟩ []
      ⟨"int".toList, "cvF".toList, "int retval".toList, 1⟩) =
        some ("int [o] retval(1); int retval(1)".toList,
          ["retval".toList, "retval".toList]) := by decide +kernel
  obtain ⟨f, hf, hparameters, hnames⟩ := bound_of_shownNames hbind
  exact ⟨_, f, hf, rfl, by decide, hparameters, hnames ▸ by decide⟩

end HeaderBindings.Binding
