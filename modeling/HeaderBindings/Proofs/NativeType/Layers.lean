import HeaderBindings.Proofs.NativeType.Profiles
import Mathlib.Data.List.Nodup

/-!
# Profiles one after another

A well-shaped profile adds aliases, matrix types and vectors to a registry. It changes the shape of
no type but those that it names: a type keeps its shape if the profile gives it no alias and if what
it stands for is neither a matrix type nor a vector of the profile. The rules are asked in order, so
a vector of a profile holds if no rule before it answers: neither a matrix type nor a built-in type,
nor a form of built-in name whose width is refused, nor a vector of an earlier profile.
-/
namespace HeaderBindings.NativeType

open Profile

/-! ### Well-shaped profiles -/

structure NamedVector where
  name : Text
  element : Element
  length : Int
deriving DecidableEq

def NamedVector.shape (v : NamedVector) : Shape := ⟨.vector, v.element, v.length⟩

/-- What a profile adds. No two vectors have one name, since they are the entries of a mapping. -/
structure Additions where
  aliases : List (Text × Text)
  matrixTypes : List Text
  vectors : List NamedVector
  distinct : (vectors.map NamedVector.name).Nodup

/-- A vector as an entry of a mapping: the elements are `double` and there is one of them unless
something else is said. -/
def Defines (entry : Datum × Datum) (v : NamedVector) : Prop :=
  entry.1 = .text v.name ∧ ∃ es, entry.2 = .map es ∧
    (Datum.field? "element" es).getD (.text "double".toList) = .text v.element.label.toList ∧
    (Datum.field? "length" es).getD (.int 1) = .int v.length

/-- A profile is well-shaped and adds so much. Each of its three parts may be left out. -/
def Adds (profile : Datum) (a : Additions) : Prop :=
  ∃ es vs, profile = .map es ∧
    (Datum.field? "aliases" es).getD (.map []) =
      .map (a.aliases.map fun e => (.text e.1, .text e.2)) ∧
    (Datum.field? "matrix_types" es).getD (.list []) = .list (a.matrixTypes.map .text) ∧
    (Datum.field? "vectors" es).getD (.map []) = .map vs ∧ List.Forall₂ Defines vs a.vectors

/-! ### Written profiles -/

namespace Additions

/-- A profile with all of its parts. -/
def profile (a : Additions) : Datum :=
  .map [(.text "aliases".toList, .map (a.aliases.map fun e => (.text e.1, .text e.2))),
    (.text "matrix_types".toList, .list (a.matrixTypes.map .text)),
    (.text "vectors".toList, .map (a.vectors.map fun v => (.text v.name, .map [
      (.text "element".toList, .text v.element.label.toList),
      (.text "length".toList, .int v.length)])))]

theorem adds_profile (a : Additions) : Adds a.profile a := by
  refine ⟨_, _, rfl, rfl, rfl, rfl, ?_⟩
  rw [List.forall₂_map_left_iff, List.forall₂_same]
  exact fun v _ => ⟨rfl, _, rfl, rfl, rfl⟩

/-- Rectangles of four integers, also under a shorter name. -/
def rectangles : Additions where
  aliases := [("Rect".toList, "CvRect".toList)]
  matrixTypes := []
  vectors := [⟨"CvRect".toList, .int, 4⟩]
  distinct := by decide

def boxes : Additions where
  aliases := [("IplImage".toList, "CvArr".toList)]
  matrixTypes := ["CvMatND".toList]
  vectors := [⟨"CvBox".toList, .float, 5⟩]
  distinct := by decide

/-- Vectors under names that are taken. -/
def takenNames : Additions where
  aliases := []
  matrixTypes := []
  vectors := [⟨"CvRect".toList, .double, 2⟩, ⟨"CvPoint3D16f".toList, .float, 3⟩]
  distinct := by decide

end Additions

open Additions (rectangles boxes takenNames adds_profile)

/-! ### Merging -/

/-- A vector as a registry keeps it. -/
def NamedVector.fixed (v : NamedVector) : FixedVector :=
  ⟨some (.ofText v.name), v.element, v.length⟩

namespace Additions

/-- A registry with the additions. -/
def addTo (r : Registry) (a : Additions) : Registry where
  aliases := a.aliases.foldl (fun as e => Datum.put (.text e.1) (.text e.2) as) r.aliases
  matrixTypes := addMatrixTypes r.matrixTypes (a.matrixTypes.map .text)
  vectors := r.vectors ++ a.vectors.map NamedVector.fixed

/-- The registry of some additions on top of the given matrix types. -/
def registry (types : List Text) (as : List Additions) : Registry :=
  as.foldl addTo ⟨[], types.map .text, []⟩

theorem registry_concat (types : List Text) (as : List Additions) (a : Additions) :
    registry types (as ++ [a]) = addTo (registry types as) a := by
  rw [registry, List.foldl_append]
  rfl

end Additions

theorem Element.ofLabel?_label (e : Element) : ofLabel? e.label.toList = some e := by
  cases e <;> decide

theorem Defines.vectorOf_eq {entry : Datum × Datum} {v : NamedVector} (h : Defines entry v) :
    vectorOf entry.1 entry.2 = .ok v.fixed := by
  obtain ⟨hname, es, hes, helement, hlength⟩ := h
  have hlabel : elementOf (.text v.element.label.toList) = .ok v.element := by
    simp only [elementOf, Datum.text?, Option.bind_some, Element.ofLabel?_label]
  rw [hname, hes]
  simp only [vectorOf, entries, helement, hlength, hlabel, lengthOf, bind, Except.bind,
    Datum.wide?, NamedVector.fixed]

theorem Adds.mergeInto_eq {profile : Datum} {a : Additions} (h : Adds profile a) (r : Registry) :
    mergeInto r profile = .ok (a.addTo r) := by
  obtain ⟨es, vs, rfl, haliases, htypes, hvs, hvectors⟩ := h
  have hmap : (vs.mapM fun v => vectorOf v.1 v.2) = .ok (a.vectors.map NamedVector.fixed) :=
    mapM_eq_ok_of_forall₂
      (List.forall₂_map_right_iff.mpr (hvectors.imp fun _ _ hv => hv.vectorOf_eq))
  simp only [mergeInto, entries, updateAliases, members, haliases, htypes, hvs, hmap, bind,
    Except.bind, List.foldl_map, Additions.addTo]

theorem Additions.hasKeys_foldl_addTo {r : Registry} (h : HasKeys r.matrixTypes)
    (as : List Additions) : HasKeys (as.foldl addTo r).matrixTypes := by
  induction as generalizing r with
  | nil => exact h
  | cons a as ih => exact ih (h.addMatrixTypes (hasKeys_map_text a.matrixTypes))

/-- Well-shaped profiles are never refused. -/
theorem ofProfiles_eq {ps : List Datum} {as : List Additions} (h : List.Forall₂ Adds ps as)
    (types : List Text) :
    Registry.ofProfiles ps (types.map .text) = .ok (Additions.registry types as) := by
  have hmerge : ∀ r, ps.foldlM mergeInto r = .ok (as.foldl Additions.addTo r) := by
    induction h with
    | nil => exact fun r => rfl
    | cons hp _ ih =>
      intro r
      rw [List.foldlM_cons, hp.mergeInto_eq]
      exact ih _
  have hkeys : (Additions.registry types as).matrixTypes.all isKey = true :=
    List.all_eq_true.mpr (Additions.hasKeys_foldl_addTo (hasKeys_map_text types) as)
  rw [Registry.ofProfiles, hmerge]
  exact if_pos hkeys

/-! ### What a profile changes -/

/-- Of an alias the last value holds, and other names keep theirs. -/
theorem lookup?_foldl_put (as : List (Text × Text)) (base : Text) (es : List (Datum × Datum)) :
    (base ∉ as.map Prod.fst ∧
      Datum.lookup? (.text base) (as.foldl (fun es e => Datum.put (.text e.1) (.text e.2) es) es) =
        Datum.lookup? (.text base) es) ∨
    ∃ t, (base, t) ∈ as ∧
      Datum.lookup? (.text base) (as.foldl (fun es e => Datum.put (.text e.1) (.text e.2) es) es) =
        some (.text t) := by
  induction as generalizing es with
  | nil => exact .inl ⟨List.not_mem_nil, rfl⟩
  | cons e as ih =>
    rw [List.foldl_cons]
    rcases ih (Datum.put (.text e.1) (.text e.2) es) with ⟨hnot, heq⟩ | ⟨t, ht, heq⟩
    · rw [heq, Datum.lookup?_put]
      by_cases he : e.1 = base
      · subst he
        exact .inr ⟨e.2, List.mem_cons_self, if_pos rfl⟩
      · refine .inl ⟨by simp [Ne.symm he, hnot], if_neg ?_⟩
        simpa using he
    · exact .inr ⟨t, List.mem_cons_of_mem _ ht, heq⟩

theorem any_addMatrixTypes (types names : List Datum) (k : Option Datum.Key) :
    (addMatrixTypes types names).any (·.key? = k) =
      (types.any (·.key? = k) || names.any (·.key? = k)) := by
  unfold addMatrixTypes
  induction names generalizing types with
  | nil => simp
  | cons d names ih =>
    rw [List.foldl_cons, ih]
    split_ifs with h
    · by_cases hd : d.key? = k
      · subst hd
        simp [h]
      · simp [hd]
    · simp [Bool.or_assoc]

namespace Additions
variable (r : Registry) (a : Additions)

theorem resolve_addTo (base : Text) :
    (base ∉ a.aliases.map Prod.fst ∧ (a.addTo r).resolve base = r.resolve base) ∨
      ∃ t, (base, t) ∈ a.aliases ∧ (a.addTo r).resolve base = .text t := by
  simp only [addTo, Registry.resolve]
  rcases lookup?_foldl_put a.aliases base r.aliases with ⟨hnot, heq⟩ | ⟨t, ht, heq⟩
  · exact .inl ⟨hnot, by rw [heq]⟩
  · exact .inr ⟨t, ht, by rw [heq]; rfl⟩

theorem isMatrix_addTo (t : Text) :
    (a.addTo r).isMatrix (.text t) = (r.isMatrix (.text t) || t ∈ a.matrixTypes) := by
  have hmem : (a.matrixTypes.map Datum.text).any (·.key? = (Datum.text t).key?) =
      decide (t ∈ a.matrixTypes) := by
    rw [Bool.eq_iff_iff]
    simp
  rw [Registry.isMatrix, addTo, any_addMatrixTypes, hmem]
  rfl

theorem vector?_addTo (t : Text) : (a.addTo r).vector? (.ofText t) =
    (r.vector? (.ofText t)).or ((a.vectors.find? (·.name = t)).map NamedVector.shape) := by
  have hfind : (a.vectors.map NamedVector.fixed).find? (·.name = some (.ofText t)) =
      (a.vectors.find? (·.name = t)).map NamedVector.fixed := by
    rw [List.find?_map]
    simp only [Function.comp_def, NamedVector.fixed, Option.some.injEq, WideText.ofText_inj]
  simp only [Registry.vector?, addTo, List.find?_append, hfind, Option.map_or, Option.map_map]
  rfl

end Additions

/-- Every type name stands for a text. -/
theorem Additions.exists_resolve (types : List Text) (as : List Additions) (base : Text) :
    ∃ t, (registry types as).resolve base = .text t := by
  suffices hall : ∀ r : Registry, (∃ t, r.resolve base = .text t) →
      ∃ t, (as.foldl addTo r).resolve base = .text t from hall _ ⟨base, rfl⟩
  induction as with
  | nil => exact fun r hr => hr
  | cons a as ih =>
    intro r hr
    refine ih (a.addTo r) ?_
    rcases resolve_addTo r a base with ⟨-, heq⟩ | ⟨t, -, heq⟩
    · rwa [heq]
    · exact ⟨t, heq⟩

/-- A type that a profile does not name keeps its shape. -/
theorem Additions.find?_addTo {r : Registry} {a : Additions} {base t : Text}
    (hbase : base ∉ a.aliases.map Prod.fst) (ht : r.resolve base = .text t)
    (hmatrix : t ∉ a.matrixTypes) (hvector : t ∉ a.vectors.map NamedVector.name) :
    (a.addTo r).find? base = r.find? base := by
  have hresolve : (a.addTo r).resolve base = .text t := by
    rw [← ht]
    exact (resolve_addTo r a base).elim And.right
      fun ⟨s, hs, _⟩ => absurd (List.mem_map_of_mem hs) hbase
  have hnone : a.vectors.find? (·.name = t) = none := by
    refine List.find?_eq_none.mpr fun v hv he => hvector ?_
    rw [← of_decide_eq_true he]
    exact List.mem_map_of_mem hv
  simp only [Registry.find?, hresolve, ht, isMatrix_addTo, vector?_addTo, hmatrix, hnone,
    decide_false, Bool.or_false, Option.map_none, Option.or_none]

theorem exists_additions {ps : List Datum} (h : ∀ p ∈ ps, ∃ a, Adds p a) :
    ∃ as, List.Forall₂ Adds ps as := by
  induction ps with
  | nil => exact ⟨[], .nil⟩
  | cons p ps ih =>
    obtain ⟨⟨a, ha⟩, hps⟩ := List.forall_mem_cons.mp h
    obtain ⟨as, has⟩ := ih hps
    exact ⟨a :: as, .cons ha has⟩

/-- A further profile changes the shape of no type that it gives no alias, unless the type stands
for a matrix type or a vector of that profile. -/
theorem find?_concat_profile {ps : List Datum} (hps : ∀ p ∈ ps, ∃ a, Adds p a) {q : Datum}
    {a : Additions} (hq : Adds q a) (types : List Text) {base : Text}
    (hbase : base ∉ a.aliases.map Prod.fst) :
    ∃ r r' t, Registry.ofProfiles ps (types.map .text) = .ok r ∧
      Registry.ofProfiles (ps ++ [q]) (types.map .text) = .ok r' ∧ r.resolve base = .text t ∧
      (t ∉ a.matrixTypes → t ∉ a.vectors.map NamedVector.name → r'.find? base = r.find? base) := by
  obtain ⟨as, has⟩ := exists_additions hps
  have hall : List.Forall₂ Adds (ps ++ [q]) (as ++ [a]) := List.rel_append has (.cons hq .nil)
  obtain ⟨t, ht⟩ := Additions.exists_resolve types as base
  refine ⟨_, _, t, ofProfiles_eq has types, ofProfiles_eq hall types, ht, fun hmatrix hvector => ?_⟩
  rw [Additions.registry_concat]
  exact Additions.find?_addTo hbase ht hmatrix hvector

theorem find?_concat_profile_boxes :
    (∀ p ∈ [rectangles.profile], ∃ a, Adds p a) ∧ Adds boxes.profile boxes ∧
    "Rect".toList ∉ boxes.aliases.map Prod.fst ∧
    ∃ r r', Registry.ofProfiles [rectangles.profile] [] = .ok r ∧
      Registry.ofProfiles [rectangles.profile, boxes.profile] [] = .ok r' ∧
      r'.find? "Rect".toList = r.find? "Rect".toList := by
  have hps : ∀ p ∈ [rectangles.profile], ∃ a, Adds p a :=
    List.forall_mem_singleton.mpr ⟨_, adds_profile rectangles⟩
  have hbase : "Rect".toList ∉ boxes.aliases.map Prod.fst := by decide
  obtain ⟨r, r', t, hr, hr', ht, hsame⟩ :=
    find?_concat_profile hps (adds_profile boxes) [] hbase
  cases hr
  cases ht
  exact ⟨hps, adds_profile boxes, hbase, _, r', rfl, hr', hsame (by decide) (by decide)⟩

/-! ### Vectors -/

namespace Additions
variable (r : Registry) (as : List Additions)

theorem resolve_foldl_addTo {base : Text} (h : ∀ a ∈ as, base ∉ a.aliases.map Prod.fst) :
    (as.foldl addTo r).resolve base = r.resolve base := by
  induction as generalizing r with
  | nil => rfl
  | cons a as ih =>
    obtain ⟨ha, has⟩ := List.forall_mem_cons.mp h
    rw [List.foldl_cons, ih _ has]
    exact (resolve_addTo r a base).elim And.right
      fun ⟨t, ht, _⟩ => absurd (List.mem_map_of_mem ht) ha

theorem isMatrix_foldl_addTo {t : Text} (h : ∀ a ∈ as, t ∉ a.matrixTypes) :
    (as.foldl addTo r).isMatrix (.text t) = r.isMatrix (.text t) := by
  induction as generalizing r with
  | nil => rfl
  | cons a as ih =>
    obtain ⟨ha, has⟩ := List.forall_mem_cons.mp h
    rw [List.foldl_cons, ih _ has, isMatrix_addTo]
    simp [ha]

/-- Of several vectors of one name the first holds. -/
theorem vector?_foldl_addTo (t : Text) : (as.foldl addTo r).vector? (.ofText t) =
    (r.vector? (.ofText t)).or
      (((as.flatMap vectors).find? (·.name = t)).map NamedVector.shape) := by
  induction as generalizing r with
  | nil => simp
  | cons a as ih =>
    rw [List.foldl_cons, ih, vector?_addTo, Option.or_assoc, List.flatMap_cons, List.find?_append,
      Option.map_or]

/-- The name of a vector tells which it is. -/
theorem find?_of_mem (a : Additions) {v : NamedVector} (hv : v ∈ a.vectors) :
    a.vectors.find? (·.name = v.name) = some v := by
  cases hfind : a.vectors.find? (·.name = v.name) with
  | none => exact absurd (List.find?_eq_none.mp hfind v hv) (by simp)
  | some w =>
    have hname : w.name = v.name := by simpa using List.find?_some hfind
    rw [List.inj_on_of_nodup_map a.distinct (List.mem_of_find?_eq_some hfind) hv hname]

end Additions

/-- A vector of the last profile is asked for after everything else: a name that is neither an alias
nor a matrix type is refused if the built-in rules refuse its width, and if they do not know it, it
is the vector that an earlier profile has under this name, or else the one of the last profile. -/
theorem find?_vector_of_profile {ps : List Datum} {as : List Additions}
    (hps : List.Forall₂ Adds ps as) {q : Datum} {a : Additions} (hq : Adds q a) {v : NamedVector}
    (hv : v ∈ a.vectors) {types : List Text} (htypes : v.name ∉ types)
    (halias : ∀ b ∈ as ++ [a], v.name ∉ b.aliases.map Prod.fst)
    (hmatrix : ∀ b ∈ as ++ [a], v.name ∉ b.matrixTypes) :
    ∃ r, Registry.ofProfiles (ps ++ [q]) (types.map .text) = .ok r ∧
      (∀ e, builtin? v.name = .error e → r.find? v.name = .error e) ∧
      (builtin? v.name = .ok none → r.find? v.name =
        .ok (some (((as.flatMap Additions.vectors).find? (·.name = v.name)).getD v).shape)) := by
  have hall : List.Forall₂ Adds (ps ++ [q]) (as ++ [a]) := List.rel_append hps (.cons hq .nil)
  have hresolve : (Additions.registry types (as ++ [a])).resolve v.name = .text v.name :=
    Additions.resolve_foldl_addTo _ _ halias
  have hnot : (Additions.registry types (as ++ [a])).isMatrix (.text v.name) = false := by
    rw [Additions.registry, Additions.isMatrix_foldl_addTo _ _ hmatrix]
    simpa [Registry.isMatrix] using fun t ht => ne_of_mem_of_not_mem ht htypes
  have hvector : (Additions.registry types (as ++ [a])).vector? (.ofText v.name) =
      some (((as.flatMap Additions.vectors).find? (·.name = v.name)).getD v).shape := by
    rw [Additions.registry, Additions.vector?_foldl_addTo]
    simp only [List.flatMap_append, List.flatMap_singleton, List.find?_append,
      a.find?_of_mem hv]
    cases (as.flatMap Additions.vectors).find? (·.name = v.name) <;> rfl
  refine ⟨_, ofProfiles_eq hall types, fun e he => ?_, fun hnone => ?_⟩
  · simp only [Registry.find?, hresolve, hnot, he]
    rfl
  · simp only [Registry.find?, hresolve, hnot, hnone, hvector]
    rfl

theorem find?_vector_of_profile_boxes :
    builtin? "CvBox".toList = .ok none ∧
    ∃ r, Registry.ofProfiles [rectangles.profile, boxes.profile] [] = .ok r ∧
      r.find? "CvBox".toList = .ok (some ⟨.vector, .float, 5⟩) := by
  have htypes : "CvBox".toList ∉ ([] : List Text) := List.not_mem_nil
  obtain ⟨r, hr, -, hfind⟩ := find?_vector_of_profile
    (.cons (adds_profile rectangles) .nil) (adds_profile boxes) (v := ⟨"CvBox".toList, .float, 5⟩)
    (List.mem_singleton.mpr rfl) htypes (by decide) (by decide)
  exact ⟨rfl, r, hr, hfind rfl⟩

/-- A vector of the last profile does not hold if an earlier profile has one of that name, or if the
name has the form of a built-in one and another width. -/
theorem vector_overruled : ∃ r width,
    Registry.ofProfiles [rectangles.profile, takenNames.profile]
      (defaultMatrixTypes.map .text) = .ok r ∧
    builtin? "CvRect".toList = .ok none ∧
    r.find? "CvRect".toList = .ok (some ⟨.vector, .int, 4⟩) ∧
    builtin? "CvPoint3D16f".toList = .error width ∧
    r.find? "CvPoint3D16f".toList = .error width :=
  ⟨_, _, rfl, rfl, rfl, rfl, rfl⟩

end HeaderBindings.NativeType
