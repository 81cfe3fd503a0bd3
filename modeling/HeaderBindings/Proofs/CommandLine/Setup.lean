import HeaderBindings.CommandLine.Run
import HeaderBindings.Proofs.Binding.Endings
import HeaderBindings.Proofs.Config.Loading
import HeaderBindings.Proofs.NativeType.Profiles

/-!
# Setting up a command line

Before anything is run, a command line needs a configuration that can be used, headers that are
there and type profiles that can be used. Each of these stages is passed, or it ends the command
with the status 2, or it aborts it. All that aborts are configuration files that may not be read or
have a key that is no string, readers that fail otherwise than by refusing a file, headers that
cannot be asked for, and some type profiles of another shape than the documented one.
-/
namespace HeaderBindings.CommandLine

open Binding (Generator SetupError membersOf pathOf stringsOf)
open Files (Outside Tree YamlReader)
open NativeType (IsProfile ProfileError Registry)

variable {yaml : YamlReader} {outside : Outside} {tree : Tree} {a : Arguments} {c : Config}

/-! ### Configurations -/

theorem listsStrings_setText {f g : Field} (h : c.ListsStrings f) (hg : g ≠ f) (v : Option Text) :
    (setText c g v).ListsStrings f := by
  unfold setText
  split
  · exact h.set hg _
  · exact h

theorem listsStrings_appendTexts {f g : Field} (h : c.ListsStrings f) (hg : g ≠ f)
    (ts : List Text) : (appendTexts c g ts).ListsStrings f := by
  unfold appendTexts
  split_ifs
  · exact h
  · exact h.set hg _

theorem listsStrings_setCommand {f : Field} (h : c.ListsStrings f) (hf : .preprocessor ≠ f)
    {command : Option Text} {d : Config} (hd : setCommand c command = .ok d) :
    d.ListsStrings f := by
  unfold setCommand at hd
  split at hd
  · cases hd
    exact h
  · next t _ =>
    rw [mapError_eq_ok_iff] at hd
    cases hw : Text.shellWords t with
    | error e => simp [hw, Except.map] at hd
    | ok ws =>
      rw [hw] at hd
      cases hd
      exact h.set hf _

theorem listsStrings_loadedConfig {f : Field} (hf : f ∈ Field.lists) (hn : f ≠ .typesProfiles)
    {path : Option Text} (h : loadedConfig yaml tree path = .ok c) : c.ListsStrings f := by
  have hstandard := Config.listsStrings_standard hf hn
  unfold loadedConfig at h
  split at h
  · cases h
    exact hstandard
  · next p _ =>
    have hload := hstandard.load hf hn yaml tree p
    split at h
    · next d hd =>
      cases h
      rwa [hd] at hload
    · cases h

/-- The configuration of a command line before it is checked. -/
def uncheckedOf (yaml : YamlReader) (tree : Tree) (a : Arguments) : Except ConfigError Config := do
  let c ← loadedConfig yaml tree a.config
  let c := setText c .outputPd a.output
  let c := setText c .outputManifest a.manifest
  let c := appendTexts c .typesProfiles a.typesProfiles
  let c ← setCommand c a.command
  let c := appendTexts c .includeDirs a.includeDirectories
  let c := setText c .functionPrefix a.libraryPrefix
  let c := setText c .exportMacro a.exportMark
  let c := setText c .moduleName a.moduleName
  .ok (if a.lenient then c.set .strictConstants (.bool false) else c)

theorem configOf_eq (yaml : YamlReader) (tree : Tree) (a : Arguments) :
    configOf yaml tree a = uncheckedOf yaml tree a >>= fun c =>
      c.validate.mapError ConfigError.invalid >>= fun _ => .ok c := by
  unfold configOf uncheckedOf
  cases loadedConfig yaml tree a.config with
  | error e => rfl
  | ok c =>
    simp only [bind, Except.bind]
    cases setCommand _ a.command <;> rfl

/-- No switch changes the element types or the matrix types. -/
theorem listsStrings_uncheckedOf {f : Field} (hf : f = .genericTypes ∨ f = .matrixTypes)
    (h : uncheckedOf yaml tree a = .ok c) : c.ListsStrings f := by
  obtain ⟨c₀, h₀, h⟩ := bind_eq_ok_iff.mp h
  obtain ⟨c₁, h₁, h⟩ := bind_eq_ok_iff.mp h
  have hl₀ : c₀.ListsStrings f := by
    rcases hf with rfl | rfl
    · exact listsStrings_loadedConfig (by decide) (by decide) h₀
    · exact listsStrings_loadedConfig (by decide) (by decide) h₀
  -- none of the fields that a switch sets is one of the two
  have hne {g : Field} (h₁ : g ≠ .genericTypes) (h₂ : g ≠ .matrixTypes) : g ≠ f := by
    rcases hf with rfl | rfl <;> assumption
  have hl₁ : c₁.ListsStrings f := by
    refine listsStrings_setCommand ?_ (hne (by decide) (by decide)) h₁
    refine listsStrings_appendTexts ?_ (hne (by decide) (by decide)) _
    refine listsStrings_setText ?_ (hne (by decide) (by decide)) _
    exact listsStrings_setText hl₀ (hne (by decide) (by decide)) _
  have hl₂ : (appendTexts c₁ .includeDirs a.includeDirectories).ListsStrings f :=
    listsStrings_appendTexts hl₁ (hne (by decide) (by decide)) _
  have hl₃ := listsStrings_setText hl₂ (hne (g := .functionPrefix) (by decide) (by decide))
    a.libraryPrefix
  have hl₄ := listsStrings_setText hl₃ (hne (g := .exportMacro) (by decide) (by decide))
    a.exportMark
  have hl₅ := listsStrings_setText hl₄ (hne (g := .moduleName) (by decide) (by decide))
    a.moduleName
  cases h
  split_ifs
  · exact hl₅.set (hne (by decide) (by decide)) _
  · exact hl₅

/-- A configuration that is used is valid, and its matrix types are strings. -/
theorem valid_configOf (h : configOf yaml tree a = .ok c) :
    c.validate = .ok () ∧ c.ListsStrings .matrixTypes := by
  rw [configOf_eq] at h
  obtain ⟨d, hd, h⟩ := bind_eq_ok_iff.mp h
  obtain ⟨⟨⟩, hv, h⟩ := bind_eq_ok_iff.mp h
  cases h
  exact ⟨mapError_eq_ok_iff.mp hv, listsStrings_uncheckedOf (.inr rfl) hd⟩

/-- A configuration is refused when its file is loaded, when the preprocessor command is cut into
words, or when it is checked. -/
theorem error_configOf {e : ConfigError} (h : configOf yaml tree a = .error e) :
    (∃ path cause, given? a.config = some path ∧ e = .loading cause ∧
      (Config.standard.load yaml tree path).error = some cause) ∨
    (∃ cause, e = .words cause) ∨
    ∃ cause, e = .invalid cause ∧ ∀ m, cause ≠ .misuse m := by
  rw [configOf_eq] at h
  rcases bind_eq_error_iff.mp h with h | ⟨d, hd, h⟩
  · rcases bind_eq_error_iff.mp h with h | ⟨c₀, -, h⟩
    · unfold loadedConfig at h
      split at h
      · cases h
      · next path hpath =>
        split at h
        · cases h
        · next cause hload =>
          cases h
          exact .inl ⟨path, cause, hpath, rfl, by rw [hload]⟩
    · rcases bind_eq_error_iff.mp h with h | ⟨c₁, -, h⟩
      · unfold setCommand at h
        split at h
        · cases h
        · obtain ⟨cause, -, rfl⟩ := mapError_eq_error_iff.mp h
          exact .inr (.inl ⟨cause, rfl⟩)
      · cases h
  · rcases bind_eq_error_iff.mp h with h | ⟨_, -, h⟩
    · obtain ⟨cause, hv, rfl⟩ := mapError_eq_error_iff.mp h
      refine .inr (.inr ⟨cause, rfl, ?_⟩)
      rintro m rfl
      exact (listsStrings_uncheckedOf (.inl rfl) hd).validate_ne m hv
    · cases h

theorem configOf_of_loading {path : Text} {cause : Config.LoadError}
    (hp : given? a.config = some path)
    (h : (Config.standard.load yaml tree path).error = some cause) :
    configOf yaml tree a = .error (.loading cause) := by
  have hloaded : loadedConfig yaml tree a.config = .error (.loading cause) := by
    unfold loadedConfig
    rw [hp]
    dsimp only
    split
    · next hl =>
      rw [hl] at h
      cases h
    · next hl =>
      rw [hl] at h
      cases h
      rfl
  unfold configOf
  rw [hloaded]
  rfl

/-- What aborts a command line because of its configuration: a file that may not be read, a reader
that is exhausted or fails otherwise than by refusing the file, or a key that is no string. -/
inductive ConfigAborts (yaml : YamlReader) (tree : Tree) (a : Arguments) : Abort → Prop
  | locked {path : Text} {problem : Files.Problem} (given : given? a.config = some path)
      (file : Config.IsLocked tree path problem) : ConfigAborts yaml tree a (.unreachable problem)
  | exhausted {path : Text} {cause : Files.DataError} (given : given? a.config = some path)
      (file : Config.Holds yaml tree path (.error cause)) (severity : cause.severity = .exhausted) :
    ConfigAborts yaml tree a (.exhausted .calls)
  | unexpected {path : Text} {cause : Files.DataError} (given : given? a.config = some path)
      (file : Config.Holds yaml tree path (.error cause))
      (severity : cause.severity = .unexpected) : ConfigAborts yaml tree a (.raised cause.message)
  | foreignKey {path : Text} (given : given? a.config = some path)
      (foreign : Config.HasForeignKey yaml tree path) :
    ConfigAborts yaml tree a (.misuse .wrongKind)

/-- A file that is not loaded ends the configuration with its error. -/
theorem configOf_of_loads {path : Text} {c : Config} {e : Config.LoadError}
    (hp : given? a.config = some path)
    (h : Config.Loads Config.standard yaml tree path ⟨c, some e⟩) :
    configOf yaml tree a = .error (.loading e) :=
  configOf_of_loading hp (congrArg Config.Applied.error h.eq_load.symm)

/-- What aborts a command line when a file is loaded. -/
theorem configAborts_of_load {path : Text} {e : Config.LoadError} {x : Abort}
    (hp : given? a.config = some path) (h : (Config.standard.load yaml tree path).error = some e)
    (hx : (refuseConfig tree (.loading e)).outcome = .aborted x) : ConfigAborts yaml tree a x := by
  have hloads := Config.loads_load Config.standard yaml tree path
  generalize Config.standard.load yaml tree path = result at h hloads
  cases hloads with
  | missing _ =>
    cases h
    cases hx
  | locked file =>
    cases h
    cases hx
    exact .locked hp file
  | malformed file =>
    cases h
    simp only [refuseConfig] at hx
    split at hx
    · cases hx
    · next hs =>
      cases hx
      exact .exhausted hp file hs
    · next hs =>
      cases hx
      exact .unexpected hp file hs
  | notAMapping _ _ =>
    cases h
    cases hx
  | foreign file =>
    cases h
    cases hx
    exact .foreignKey hp file
  | applied _ _ =>
    -- what is set can only be refused
    obtain ⟨hdata, hmisuse, hunreadable⟩ := Config.isRefusal_of_apply h
    cases e with
    | data cause => exact absurd rfl (hdata cause)
    | misuse cause => exact absurd rfl (hmisuse cause)
    | unreadable cause => exact absurd rfl (hunreadable cause)
    | _ => cases hx

theorem configAborts_iff {x : Abort} : ConfigAborts yaml tree a x ↔
    ∃ e, configOf yaml tree a = .error e ∧ (refuseConfig tree e).outcome = .aborted x := by
  constructor
  · intro h
    cases h with
    | locked given file => exact ⟨_, configOf_of_loads given (.locked file), rfl⟩
    | exhausted given file severity =>
      refine ⟨_, configOf_of_loads given (.malformed file), ?_⟩
      simp only [refuseConfig, severity]
    | unexpected given file severity =>
      refine ⟨_, configOf_of_loads given (.malformed file), ?_⟩
      simp only [refuseConfig, severity]
    | foreignKey given foreign => exact ⟨_, configOf_of_loads given (.foreign foreign), rfl⟩
  · rintro ⟨e, he, hx⟩
    rcases error_configOf he with ⟨path, cause, hp, rfl, hl⟩ | ⟨cause, rfl⟩ | ⟨cause, rfl, hm⟩
    · exact configAborts_of_load hp hl hx
    · cases hx
    · cases cause with
      | misuse m => exact absurd rfl (hm m)
      | _ => cases hx

theorem outcome_refuseConfig (tree : Tree) (e : ConfigError) :
    (refuseConfig tree e).outcome = .finished 2 ∨
      ∃ x, (refuseConfig tree e).outcome = .aborted x := by
  unfold refuseConfig
  repeat' split
  all_goals first | exact .inl rfl | exact .inr ⟨_, rfl⟩

/-! ### Headers -/

theorem isHeader_iff {p : Text} : isHeader tree p = true ↔
    ∃ bytes, tree.read? (pathOf p) = some bytes := by
  rw [isHeader, Option.isSome_iff_exists]
  rfl

/-- No header is barred: each can be asked for. -/
def AllReachable (tree : Tree) (paths : List Text) : Prop :=
  ∀ p ∈ paths, ∀ problem, ¬tree.Bars (pathOf p) problem

/-- The first header that cannot be asked for, and why. -/
def FirstBars (tree : Tree) (paths : List Text) (problem : Files.Problem) : Prop :=
  ∃ before p after, paths = before ++ p :: after ∧ AllReachable tree before ∧
    tree.Bars (pathOf p) problem

theorem look_eq_ok_unit_iff {p : Text} :
    (tree.look (pathOf p)).map (fun _ => ()) = .ok () ↔
      ∀ problem, ¬tree.Bars (pathOf p) problem := by
  rw [map_eq_ok_iff]
  constructor
  · rintro ⟨content, hlook, -⟩
    exact (Tree.look_eq_ok_iff.mp hlook).1
  · exact fun hreachable => ⟨_, Tree.look_eq_ok_iff.mpr ⟨hreachable, rfl⟩, rfl⟩

/-- The headers are looked for if all of them can be asked for. -/
theorem existingHeaders_eq_ok_iff {paths headers : List Text} :
    existingHeaders tree paths = .ok headers ↔
      AllReachable tree paths ∧ headers = paths.filter (isHeader tree) := by
  unfold existingHeaders
  rw [bind_eq_ok_iff]
  constructor
  · rintro ⟨⟨⟩, hall, h⟩
    cases h
    exact ⟨fun p hp => look_eq_ok_unit_iff.mp (forM_eq_ok_iff.mp hall p hp), rfl⟩
  · rintro ⟨hall, rfl⟩
    exact ⟨(), forM_eq_ok_iff.mpr fun p hp => look_eq_ok_unit_iff.mpr (hall p hp), rfl⟩

theorem existingHeaders_eq_error_iff {paths : List Text} {problem : Files.Problem} :
    (∃ cause, existingHeaders tree paths = .error cause ∧ cause.problem = problem) ↔
      FirstBars tree paths problem := by
  have hfirst (cause : Files.Failure) : existingHeaders tree paths = .error cause ↔
      ∃ before p after, paths = before ++ p :: after ∧ AllReachable tree before ∧
        tree.look (pathOf p) = .error cause := by
    unfold existingHeaders
    rw [bind_eq_error_iff, or_iff_left (by rintro ⟨_, -, h⟩; cases h), forM_eq_error_iff]
    refine exists_congr fun before => exists_congr fun p => exists_congr fun after =>
      and_congr_right fun _ => and_congr ?_ map_eq_error_iff
    exact forall₂_congr fun k _ => look_eq_ok_unit_iff
  constructor
  · rintro ⟨cause, h, rfl⟩
    obtain ⟨before, p, after, hsplit, hbefore, hp⟩ := (hfirst cause).mp h
    exact ⟨before, p, after, hsplit, hbefore, (Tree.look_eq_error_iff.mp hp).1⟩
  · rintro ⟨before, p, after, hsplit, hbefore, hp⟩
    have hlook : tree.look (pathOf p) = .error ⟨problem, some (pathOf p)⟩ :=
      Tree.look_eq_error_iff.mpr ⟨hp, rfl⟩
    exact ⟨_, (hfirst _).mpr ⟨before, p, after, hsplit, hbefore, hlook⟩, rfl⟩

/-! ### Type profiles -/

/-- What of a profile is worse than refused. -/
def abortOf? : ProfileError → Option Abort
  | .misuse cause => some (.misuse cause)
  | .infiniteLength => some .infiniteLength
  | _ => none

/-- The types of a configuration. -/
def typesOf (yaml : YamlReader) (outside : Outside) (tree : Tree) (c : Config) :
    Except NativeType.LoadError Registry :=
  Registry.load yaml outside tree (stringsOf c .typesProfiles) (membersOf c .matrixTypes)

/-- What aborts a command line because of its type profiles: one that has not the documented shape,
or a reader that fails otherwise than by refusing one. -/
inductive TypesAbort (yaml : YamlReader) (outside : Outside) (tree : Tree) (c : Config) :
    Abort → Prop
  | shape {e : ProfileError} {x : Abort} {path : WideText} {d : Datum}
      (types : typesOf yaml outside tree c = .error (.profile e)) (worse : abortOf? e = some x)
      (mem : path ∈ stringsOf c .typesProfiles)
      (file : NativeType.readProfile yaml outside tree path = .ok d) (shape : ¬IsProfile d) :
    TypesAbort yaml outside tree c x
  | unexpected {cause : Files.DataError}
      (types : typesOf yaml outside tree c = .error (.data cause))
      (severity : cause.severity = .unexpected) :
    TypesAbort yaml outside tree c (.raised cause.message)

/-- Of a configuration that is used, only the type profiles are left to be refused. -/
theorem ofConfig_eq (h : configOf yaml tree a = .ok c) (outside : Outside) : ∃ is, ∀ x,
    Generator.ofConfig c yaml outside tree x =
      ((typesOf yaml outside tree c).map fun types =>
        { exportMark := c.get .exportMacro
          rules := {
            libraryPrefix := c.get .functionPrefix
            returnName := (c.get .returnName).toText
            isReturnNameWritable := (c.get .returnName).isWritable
            types := types
            instantiations := is }
          expander := x
          constantsRequired := !(c.get .strictConstants).isEmpty
          tableName := c.get .constantsName }).mapError .types := by
  obtain ⟨hv, -⟩ := valid_configOf h
  obtain ⟨is, his⟩ := Config.instantiations_of_validate hv
  refine ⟨is, fun x => ?_⟩
  simp only [Generator.ofConfig, hv, his, Except.mapError, bind, Except.bind, typesOf]
  cases Registry.load yaml outside tree (stringsOf c .typesProfiles)
    (membersOf c .matrixTypes) <;> rfl

theorem error_ofConfig_iff (h : configOf yaml tree a = .ok c) {x : Preprocessor.Expander}
    {e : SetupError} : Generator.ofConfig c yaml outside tree x = .error e ↔
      ∃ cause, typesOf yaml outside tree c = .error cause ∧ e = .types cause := by
  obtain ⟨is, his⟩ := ofConfig_eq h outside
  rw [his x]
  cases typesOf yaml outside tree c with
  | error cause => simp [Except.map, Except.mapError, eq_comm]
  | ok types => simp [Except.map, Except.mapError]

/-- A profile that aborts is not of the documented shape. -/
theorem exists_of_abortOf? (h : configOf yaml tree a = .ok c) {e : ProfileError} {x : Abort}
    (htypes : typesOf yaml outside tree c = .error (.profile e)) (hx : abortOf? e = some x) :
    ∃ path ∈ stringsOf c .typesProfiles, ∃ d,
      NativeType.readProfile yaml outside tree path = .ok d ∧ ¬IsProfile d := by
  by_contra hshape
  obtain ⟨-, ws, hws⟩ := valid_configOf h
  have hkeys : NativeType.HasKeys (membersOf c .matrixTypes) := by
    rw [membersOf, hws]
    exact NativeType.hasKeys_map_ofWide ws
  obtain ⟨found, rfl⟩ := NativeType.error_load_of_isProfile hkeys (by
    intro path hm d hd
    by_contra hno
    exact hshape ⟨path, hm, d, hd, hno⟩) htypes
  cases hx

theorem typesAbort_iff (h : configOf yaml tree a = .ok c) {expander : Preprocessor.Expander}
    {x : Abort} : TypesAbort yaml outside tree c x ↔
      ∃ e, Generator.ofConfig c yaml outside tree expander = .error e ∧
        (refuseSetup tree e).outcome = .aborted x := by
  constructor
  · intro habort
    cases habort with
    | @shape e _ _ _ types worse _ _ _ =>
      refine ⟨_, (error_ofConfig_iff h).mpr ⟨_, types, rfl⟩, ?_⟩
      cases e <;> cases worse <;> rfl
    | unexpected types severity =>
      refine ⟨_, (error_ofConfig_iff h).mpr ⟨_, types, rfl⟩, ?_⟩
      simp only [refuseSetup, severity, if_true]
  · rintro ⟨e, he, hx⟩
    obtain ⟨cause, htypes, rfl⟩ := (error_ofConfig_iff h).mp he
    cases cause with
    | profile p =>
      have hworse : abortOf? p = some x := by
        cases p <;> cases hx <;> rfl
      obtain ⟨path, hm, d, hd, hshape⟩ := exists_of_abortOf? h htypes hworse
      exact .shape htypes hworse hm hd hshape
    | data cause =>
      simp only [refuseSetup] at hx
      split_ifs at hx with hs
      · cases hx
        exact .unexpected htypes hs
      · cases hx
    | _ => cases hx

theorem outcome_refuseSetup (tree : Tree) (e : SetupError) :
    (refuseSetup tree e).outcome = .finished 2 ∨
      ∃ x, (refuseSetup tree e).outcome = .aborted x := by
  unfold refuseSetup
  repeat' split
  all_goals first | exact .inl rfl | exact .inr ⟨_, rfl⟩

end HeaderBindings.CommandLine
