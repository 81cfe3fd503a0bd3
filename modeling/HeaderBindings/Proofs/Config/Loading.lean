import HeaderBindings.Config.Loading
import HeaderBindings.Config.Validation
import HeaderBindings.Proofs.Datum.Mappings
import HeaderBindings.Proofs.NativeType.Profiles

/-!
# Configurations that are loaded

What a configuration file gives to the list fields is checked to be strings before it is set, so a
loaded configuration is valid or is refused, whatever the file holds. Three files only are worse
than refused: one that may not be read, one whose reader fails otherwise than by refusing it, and a
mapping with a key that is no string.
-/
namespace HeaderBindings.Config

open Files (DataError Tree YamlReader)

/-- A field holds a list of strings. -/
def ListsStrings (c : Config) (f : Field) : Prop := ∃ ws, c.get f = stringList ws

theorem textList_eq (ts : List Text) : textList ts = stringList (ts.map .ofText) := by
  have hone (t : Text) : Datum.text t = .ofWide (.ofText t) := Datum.eq_ofWide_of_wide? rfl
  rw [textList, stringList, List.map_map]
  exact congrArg Datum.list (List.map_congr_left fun t _ => hone t)

theorem listsStrings_standard {f : Field} (hf : f ∈ Field.lists) (hn : f ≠ .typesProfiles) :
    standard.ListsStrings f := by
  cases f
  case typesProfiles => exact absurd rfl hn
  case matrixTypes | genericTypes | preprocessor | includeDirs => exact ⟨_, textList_eq _⟩
  all_goals exact absurd hf (by decide)

theorem ListsStrings.set {c : Config} {f g : Field} (h : c.ListsStrings f) (hg : g ≠ f)
    (d : Datum) : (c.set g d).ListsStrings f := by
  obtain ⟨ws, hws⟩ := h
  exact ⟨ws, by rw [get_set, if_neg hg.symm, hws]⟩

theorem eq_stringList_of_strings? {d : Datum} {ws : List WideText} (h : d.strings? = some ws) :
    d = stringList ws := by
  have hitems {items : List Datum} {ws : List WideText} (h : items.mapM Datum.wide? = some ws) :
      items = ws.map .ofWide := by
    induction items generalizing ws with
    | nil =>
      cases h
      rfl
    | cons d items ih =>
      simp only [List.mapM_cons, Option.bind_eq_bind, Option.bind_eq_some_iff,
        Option.pure_def, Option.some.injEq] at h
      obtain ⟨w, hw, vs, hvs, rfl⟩ := h
      rw [ih hvs, Datum.eq_ofWide_of_wide? hw]
      rfl
  cases d with
  | list items => exact congrArg Datum.list (hitems h)
  | _ => cases h

/-- A list field gets a list of strings or nothing at all. -/
theorem coerce_list {f : Field} (hf : f ∈ Field.lists) (hn : f ≠ .typesProfiles) {d v : Datum}
    (h : coerce f d = .ok v) : ∃ ws, v = stringList ws := by
  obtain ⟨d', -, h⟩ := bind_eq_ok_iff.mp h
  have hlist : ¬(!Field.lists.contains f || (f = .typesProfiles && d' == .null)) = true := by
    simp [hf, hn]
  rw [if_neg hlist] at h
  split at h
  · next ws hws =>
    cases h
    exact ⟨ws, eq_stringList_of_strings? hws⟩
  · cases h

theorem ListsStrings.setAll {c : Config} {f : Field} (hf : f ∈ Field.lists)
    (hn : f ≠ .typesProfiles) (h : c.ListsStrings f) (data : List (Field × Datum)) :
    (c.setAll data).config.ListsStrings f := by
  induction data generalizing c with
  | nil => exact h
  | cons p data ih =>
    obtain ⟨g, d⟩ := p
    rw [Config.setAll]
    split
    · next v hv =>
      refine ih ?_
      by_cases hg : g = f
      · subst hg
        obtain ⟨ws, rfl⟩ := coerce_list hf hn hv
        exact ⟨ws, by simp⟩
      · exact h.set hg v
    · exact h

/-- A file does not keep a list field from holding strings. -/
theorem ListsStrings.load {c : Config} {f : Field} (hf : f ∈ Field.lists) (hn : f ≠ .typesProfiles)
    (h : c.ListsStrings f) (yaml : YamlReader) (tree : Tree) (path : Text) :
    (c.load yaml tree path).config.ListsStrings f := by
  unfold Config.load Config.apply
  split
  · split_ifs
    · exact h
    · exact h.setAll hf hn _
  · exact h

/-- Where the instantiations are listed as strings, a configuration is valid or is refused. -/
theorem ListsStrings.validate_ne {c : Config} (h : c.ListsStrings .genericTypes) (cause : Misuse) :
    c.validate ≠ .error (.misuse cause) := by
  obtain ⟨ws, hws⟩ := h
  have hmembers : c.genericMembers = .ok (ws.map .ofWide) := by
    have hkeys : (ws.map Datum.ofWide).all NativeType.Profile.isKey = true :=
      List.all_eq_true.mpr (NativeType.hasKeys_map_ofWide ws)
    simp only [genericMembers, hws, stringList, NativeType.Profile.members, hkeys, if_true]
  have hinstantiations : c.instantiations ≠ .error (.misuse cause) := by
    intro he
    rcases bind_eq_error_iff.mp he with hm | ⟨ds, -, he⟩
    · rw [hmembers] at hm
      cases hm
    · dsimp only at he
      split_ifs at he <;> cases he
  have hlist : c.notAList? ≠ some (.misuse cause) := by
    intro hl
    obtain ⟨f, -, hf⟩ := List.exists_of_findSome?_eq_some hl
    split at hf <;> simp at hf
  unfold validate
  split
  · next fault hf => exact fun he => hlist (Except.error.inj he ▸ hf)
  · split_ifs
    any_goals simp
    cases hi : c.instantiations with
    | error e => simpa [Except.map, hi] using hinstantiations
    | ok is => simp [Except.map]

theorem instantiations_of_validate {c : Config} (h : c.validate = .ok ()) :
    ∃ is, c.instantiations = .ok is := by
  unfold validate at h
  split at h
  · cases h
  · split_ifs at h
    cases hi : c.instantiations with
    | error e => simp [hi, Except.map] at h
    | ok is => exact ⟨is, rfl⟩

/-! ### Files that are worse than refused -/

/-- A configuration file that may not be read, and why. -/
def IsLocked (tree : Tree) (path : Text) (problem : Files.Problem) : Prop :=
  (∃ bytes, tree.read? path = some bytes) ∧ tree.unreadable? path = some problem

/-- A configuration file that may be read, with its datum or why it has none. -/
def Holds (yaml : YamlReader) (tree : Tree) (path : Text) (data : Except DataError Datum) : Prop :=
  ∃ bytes, tree.read? path = some bytes ∧ tree.unreadable? path = none ∧
    Files.dataOfBytes yaml path bytes = data

/-- A configuration file with a mapping that has a key that is no string. -/
def HasForeignKey (yaml : YamlReader) (tree : Tree) (path : Text) : Prop :=
  ∃ entries, Holds yaml tree path (.ok (.map entries)) ∧ ∃ e ∈ entries, e.1.wide? = none

theorem fieldsOf_eq_error_iff {entries : List (Datum × Datum)} {e : LoadError} :
    fieldsOf entries = .error e ↔ e = .misuse .wrongKind ∧ ∃ p ∈ entries, p.1.wide? = none := by
  have hforeign {e : LoadError} (h : fieldsOf entries = .error e) :
      e = .misuse .wrongKind ∧ ∃ p ∈ entries, p.1.wide? = none := by
    obtain ⟨p, hp, hpe⟩ := exists_of_mapM_eq_error h
    split at hpe
    · cases hpe
    · next hno => exact ⟨(Except.error.inj hpe).symm, p, hp, hno⟩
  refine ⟨hforeign, ?_⟩
  rintro ⟨rfl, p, hp, hkey⟩
  cases hf : fieldsOf entries with
  | error e => rw [(hforeign hf).1]
  | ok fields =>
    obtain ⟨field, hfield⟩ := exists_of_mapM_eq_ok hf hp
    rw [hkey] at hfield
    cases hfield

/-- An error that refuses data and nothing worse. -/
structure LoadError.IsRefusal (e : LoadError) : Prop where
  data : ∀ cause, e ≠ .data cause
  misuse : ∀ cause, e ≠ .misuse cause
  unreadable : ∀ cause, e ≠ .unreadable cause

/-- Data that are set are refused at worst. -/
theorem isRefusal_of_setAll {c : Config} {data : List (Field × Datum)} {e : LoadError}
    (h : (c.setAll data).error = some e) : e.IsRefusal := by
  induction data generalizing c with
  | nil => cases h
  | cons p data ih =>
    obtain ⟨f, d⟩ := p
    rw [Config.setAll] at h
    split at h
    · exact ih h
    · next e' hcoerce =>
      cases h
      rcases bind_eq_error_iff.mp hcoerce with hs | ⟨d', -, hd⟩
      · unfold splitCommand at hs
        split at hs
        · obtain ⟨cause, -, rfl⟩ := mapError_eq_error_iff.mp hs
          exact ⟨nofun, nofun, nofun⟩
        · cases hs
      · split_ifs at hd
        all_goals
          split at hd
          · cases hd
          · cases hd
            exact ⟨nofun, nofun, nofun⟩

theorem isRefusal_of_apply {c : Config} {data : List (WideText × Datum)} {e : LoadError}
    (h : (c.apply data).error = some e) : e.IsRefusal := by
  unfold Config.apply at h
  split_ifs at h
  · cases h
    exact ⟨nofun, nofun, nofun⟩
  · exact isRefusal_of_setAll h

/-- The ways in which the loading of a file ends: there is none, it may not be read, its reader
fails, it is no mapping, it has a foreign key, or its data are applied. -/
inductive Loads (c : Config) (yaml : YamlReader) (tree : Tree) (path : Text) : Applied → Prop
  | missing (file : tree.read? path = none) : Loads c yaml tree path ⟨c, some (.missing path)⟩
  | locked {problem : Files.Problem} (file : IsLocked tree path problem) :
    Loads c yaml tree path ⟨c, some (.unreadable ⟨problem, some path⟩)⟩
  | malformed {cause : DataError} (file : Holds yaml tree path (.error cause)) :
    Loads c yaml tree path ⟨c, some (.data cause)⟩
  | notAMapping {d : Datum} (file : Holds yaml tree path (.ok d)) (other : ∀ es, d ≠ .map es) :
    Loads c yaml tree path ⟨c, some (.notAMapping path d.kindName)⟩
  | foreign (file : HasForeignKey yaml tree path) :
    Loads c yaml tree path ⟨c, some (.misuse .wrongKind)⟩
  | applied {entries : List (Datum × Datum)} {data : List (WideText × Datum)}
      (file : Holds yaml tree path (.ok (.map entries))) (fields : fieldsOf entries = .ok data) :
    Loads c yaml tree path (c.apply data)

theorem loads_load (c : Config) (yaml : YamlReader) (tree : Tree) (path : Text) :
    Loads c yaml tree path (c.load yaml tree path) := by
  cases hr : tree.read? path with
  | none =>
    simp only [Config.load, readData, hr]
    exact .missing hr
  | some bytes =>
    cases hu : tree.unreadable? path with
    | some problem =>
      simp only [Config.load, readData, hr, hu]
      exact .locked ⟨⟨bytes, hr⟩, hu⟩
    | none =>
      have hfile : Holds yaml tree path (Files.dataOfBytes yaml path bytes) := ⟨bytes, hr, hu, rfl⟩
      simp only [Config.load, readData, hr, hu]
      cases hd : Files.dataOfBytes yaml path bytes with
      | error cause => exact .malformed (hd ▸ hfile)
      | ok d =>
        rw [hd] at hfile
        cases d with
        | map entries =>
          simp only [Except.mapError, bind, Except.bind]
          cases hf : fieldsOf entries with
          | error e =>
            obtain ⟨rfl, hkey⟩ := fieldsOf_eq_error_iff.mp hf
            exact .foreign ⟨entries, hfile, hkey⟩
          | ok data => exact .applied hfile hf
        | _ => exact .notAMapping hfile nofun

/-- In what way a file is loaded decides the outcome. -/
theorem Loads.eq_load {c : Config} {yaml : YamlReader} {tree : Tree} {path : Text}
    {result : Applied} (h : Loads c yaml tree path result) : result = c.load yaml tree path := by
  cases h with
  | missing hm => simp only [Config.load, readData, hm]
  | locked hl =>
    obtain ⟨⟨bytes, hr⟩, hu⟩ := hl
    simp only [Config.load, readData, hr, hu]
  | malformed hf =>
    obtain ⟨bytes, hr, hu, hd⟩ := hf
    simp only [Config.load, readData, hr, hu, hd, Except.mapError, bind, Except.bind]
  | @notAMapping d hf hother =>
    obtain ⟨bytes, hr, hu, hd⟩ := hf
    cases d with
    | map es => exact absurd rfl (hother es)
    | _ => simp only [Config.load, readData, hr, hu, hd, Except.mapError, bind, Except.bind]
  | foreign hforeign =>
    obtain ⟨es, ⟨bytes, hr, hu, hd⟩, hkey⟩ := hforeign
    have hfields := fieldsOf_eq_error_iff.mpr ⟨rfl, hkey⟩
    simp only [Config.load, readData, hr, hu, hd, Except.mapError, bind, Except.bind, hfields]
  | applied hf hfields =>
    obtain ⟨bytes, hr, hu, hd⟩ := hf
    simp only [Config.load, readData, hr, hu, hd, Except.mapError, bind, Except.bind, hfields]

end HeaderBindings.Config
