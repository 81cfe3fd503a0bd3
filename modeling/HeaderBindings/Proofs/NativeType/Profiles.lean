import HeaderBindings.NativeType.ProfileFiles
import HeaderBindings.Proofs.Steps

/-!
# Type profiles of the documented shape

A type profile is meant to be a mapping. Its aliases are a mapping, its matrix types a list of
strings, and its vectors a mapping of names to mappings with an integer as their length; each of
these may be left out. Of such a profile nothing is refused but an element type that is not known,
whatever stands in it besides. Only profiles of another shape are worse than refused.
-/
namespace HeaderBindings.NativeType

open Profile

/-- A vector of a profile: a mapping whose length, if it has one, is an integer. -/
def IsVector (d : Datum) : Prop :=
  ∃ es, d = .map es ∧ ∀ l, Datum.field? "length" es = some l → ∃ n, l = .int n

/-- The shape of a profile. -/
def IsProfile (d : Datum) : Prop :=
  ∃ es, d = .map es ∧
    (∀ a, Datum.field? "aliases" es = some a → ∃ as, a = .map as) ∧
    (∀ m, Datum.field? "matrix_types" es = some m →
      ∃ ws : List WideText, m = .list (ws.map .ofWide)) ∧
    ∀ v, Datum.field? "vectors" es = some v → ∃ vs, v = .map vs ∧ ∀ e ∈ vs, IsVector e.2

/-- All matrix types can be looked up. -/
def HasKeys (types : List Datum) : Prop := ∀ d ∈ types, isKey d = true

theorem hasKeys_map_ofWide (ws : List WideText) : HasKeys (ws.map .ofWide) := by
  intro d hd
  obtain ⟨w, -, rfl⟩ := List.mem_map.mp hd
  unfold Datum.ofWide
  split <;> rfl

theorem hasKeys_map_text (ts : List Text) : HasKeys (ts.map .text) := by
  intro d hd
  obtain ⟨t, -, rfl⟩ := List.mem_map.mp hd
  rfl

theorem HasKeys.addMatrixTypes {types names : List Datum} (ht : HasKeys types)
    (hn : HasKeys names) : HasKeys (addMatrixTypes types names) := by
  unfold Profile.addMatrixTypes
  induction names generalizing types with
  | nil => exact ht
  | cons d names ih =>
    obtain ⟨hd, hns⟩ := List.forall_mem_cons.mp hn
    rw [List.foldl_cons]
    split_ifs
    · exact ih ht hns
    · exact ih (List.forall_mem_append.mpr ⟨ht, List.forall_mem_singleton.mpr hd⟩) hns

theorem elementOf_eq_error {d : Datum} {e : ProfileError} (h : elementOf d = .error e) :
    e = .unknownElement d := by
  unfold elementOf at h
  split at h
  · cases h
  · exact (Except.error.inj h).symm

theorem IsVector.error {d : Datum} (hd : IsVector d) {name : Datum} {e : ProfileError}
    (h : vectorOf name d = .error e) : ∃ found, e = .unknownElement found := by
  obtain ⟨es, rfl, hlength⟩ := hd
  have hint : ∃ n, lengthOf ((Datum.field? "length" es).getD (.int 1)) = .ok n := by
    cases hl : Datum.field? "length" es with
    | none => exact ⟨1, rfl⟩
    | some l =>
      obtain ⟨n, rfl⟩ := hlength l hl
      exact ⟨n, rfl⟩
  rcases bind_eq_error_iff.mp h with hmap | ⟨_, hmap, h⟩
  · cases hmap
  cases hmap
  rcases bind_eq_error_iff.mp h with helement | ⟨_, -, h⟩
  · exact ⟨_, elementOf_eq_error helement⟩
  obtain ⟨n, hn⟩ := hint
  rcases bind_eq_error_iff.mp h with hl | ⟨_, -, h⟩
  · rw [hn] at hl
    cases hl
  · cases h

/-- A profile is merged as three parts, and a part that is left out is empty. -/
theorem IsProfile.mergeInto_eq {d : Datum} (hd : IsProfile d) (r : Registry) :
    ∃ (as vs : List (Datum × Datum)) (ws : List WideText), (∀ v ∈ vs, IsVector v.2) ∧
      mergeInto r d = (vs.mapM fun v => vectorOf v.1 v.2).map fun vectors =>
        ⟨as.foldl (fun as e => Datum.put e.1 e.2 as) r.aliases,
          addMatrixTypes r.matrixTypes (ws.map .ofWide), r.vectors ++ vectors⟩ := by
  obtain ⟨es, rfl, haliases, htypes, hvectors⟩ := hd
  obtain ⟨as, has⟩ : ∃ as, (Datum.field? "aliases" es).getD (.map []) = .map as := by
    cases ha : Datum.field? "aliases" es with
    | none => exact ⟨[], rfl⟩
    | some a => exact haliases a ha
  obtain ⟨ws, hws⟩ : ∃ ws : List WideText,
      (Datum.field? "matrix_types" es).getD (.list []) = .list (ws.map .ofWide) := by
    cases hm : Datum.field? "matrix_types" es with
    | none => exact ⟨[], rfl⟩
    | some m => exact htypes m hm
  obtain ⟨vs, hvs, hv⟩ : ∃ vs, (Datum.field? "vectors" es).getD (.map []) = .map vs ∧
      ∀ v ∈ vs, IsVector v.2 := by
    cases hv : Datum.field? "vectors" es with
    | none => exact ⟨[], rfl, by simp⟩
    | some v => exact hvectors v hv
  refine ⟨as, vs, ws, hv, ?_⟩
  simp only [mergeInto, entries, members, updateAliases, has, hws, hvs, bind, Except.bind]
  cases vs.mapM fun v => vectorOf v.1 v.2 <;> rfl

/-- Profiles are merged one after another: they are taken, and matrix types that can be looked up
stay so, or an element type is not known. -/
theorem error_foldlM_mergeInto {profiles : List Datum} (hp : ∀ p ∈ profiles, IsProfile p)
    {r : Registry} (hr : HasKeys r.matrixTypes) :
    (∀ r', profiles.foldlM mergeInto r = .ok r' → HasKeys r'.matrixTypes) ∧
      ∀ e, profiles.foldlM mergeInto r = .error e → ∃ found, e = .unknownElement found := by
  induction profiles generalizing r with
  | nil =>
    refine ⟨fun r' h => ?_, fun e h => ?_⟩
    · cases h
      exact hr
    · cases h
  | cons p profiles ih =>
    obtain ⟨hshape, hrest⟩ := List.forall_mem_cons.mp hp
    obtain ⟨as, vs, ws, hvs, hmerge⟩ := hshape.mergeInto_eq r
    rw [List.foldlM_cons, hmerge]
    cases hm : vs.mapM fun v => vectorOf v.1 v.2 with
    | ok vectors => exact ih hrest (hr.addMatrixTypes (hasKeys_map_ofWide ws))
    | error e =>
      obtain ⟨v, hv, he⟩ := exists_of_mapM_eq_error hm
      refine ⟨fun r' h => ?_, fun e' h => ?_⟩
      · cases h
      · cases h
        exact (hvs v hv).error he

/-- Profiles that are worse than refused are not all of the documented shape. -/
theorem error_load_of_isProfile {yaml : Files.YamlReader} {outside : Files.Outside}
    {tree : Files.Tree} {paths : List WideText} {types : List Datum} (ht : HasKeys types)
    (hp : ∀ path ∈ paths, ∀ d, readProfile yaml outside tree path = .ok d → IsProfile d)
    {e : ProfileError} (h : Registry.load yaml outside tree paths types = .error (.profile e)) :
    ∃ found, e = .unknownElement found := by
  rcases bind_eq_error_iff.mp h with hread | ⟨profiles, hread, h⟩
  · obtain ⟨path, -, hpath⟩ := exists_of_mapM_eq_error hread
    unfold readProfile at hpath
    split at hpath
    · cases hpath
    · cases hpath
    · obtain ⟨_, -, he⟩ := mapError_eq_error_iff.mp hpath
      cases he
  have hshape : ∀ p ∈ profiles, IsProfile p := by
    intro p hm
    obtain ⟨path, hpath, hok⟩ := exists_of_mem_mapM_eq_ok hread hm
    exact hp path (List.mem_of_mem_filter hpath) p hok
  obtain ⟨_, he, ⟨⟩⟩ := mapError_eq_error_iff.mp h
  obtain ⟨hkeys, herror⟩ := error_foldlM_mergeInto hshape (r := ⟨[], types, []⟩) ht
  rcases bind_eq_error_iff.mp he with hf | ⟨r, hf, hr⟩
  · exact herror e hf
  · have hall : r.matrixTypes.all isKey = true := List.all_eq_true.mpr (hkeys r hf)
    rw [if_pos hall] at hr
    cases hr

end HeaderBindings.NativeType
