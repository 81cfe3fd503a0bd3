import HeaderBindings.Proofs.Binding.ChangingExpanders
import HeaderBindings.Proofs.CommandLine.Output
import HeaderBindings.Proofs.CommandLine.Setup

/-!
# How a command line ends

A command line whose words are accepted has one of the statuses 0, 1 and 2, or is aborted. It has
the status 2 if its configuration, its headers or its type profiles are of no use, the status 1 if
the run or the writing fails, and the status 0 if the module, and the manifest if there is to be
one, are written. Everything that aborts it is listed.
-/
namespace HeaderBindings.CommandLine

open Binding (Failure Generator expanderOf membersOf pathOf stringsOf)
open Files (Tree)
open NativeType (Registry)
open Preprocessor (Expander Invocation)

variable {s : Surroundings} {tree : Tree} {a : Arguments} {c : Config} {headers : List Text}
  {g : Generator}

/-! ### What a run fails with -/

/-- The failures of a run that are reported with the status 1. -/
inductive IsReported : Failure → Prop
  | unreadable (path : Text) (problem : Files.Problem) :
    IsReported (.headerUnreadable path problem)
  | preprocessor (cause : Preprocessor.Failure) : IsReported (.preprocessor cause)
  | unstarted (message : Text) : IsReported (.processUnstarted message)
  | countMismatch (header : Text) (expected found : Nat) :
    IsReported (.countMismatch header expected found)

/-- What a preprocessor command of a configuration fails with. A marker that is no string is of no
use, whatever the preprocessor does. -/
inductive ExpanderFails (c : Config) : Preprocessor.ExpansionError → Prop
  | failed (failure : Preprocessor.Failure) : ExpanderFails c (.failed failure)
  | unstarted (message : Text) : ExpanderFails c (.unstarted message)
  | unusable (message : Text) : ExpanderFails c (.unusable message)
  | marker (cause : Misuse) (marker : (c.get .constantMarker).wide? = none) :
    ExpanderFails c (.misuse cause)

theorem expanderFails_of_expansionsOf {program header : Text} {cut : Text → List Text}
    {outcome : Preprocessor.Outcome} {cause : Preprocessor.ExpansionError}
    (h : Preprocessor.expansionsOf program header cut outcome = .error cause) :
    ExpanderFails c cause := by
  cases outcome with
  | exited status output errors =>
    unfold Preprocessor.expansionsOf at h
    dsimp only at h
    split_ifs at h
    cases h
    exact .failed _
  | notFound =>
    cases h
    exact .failed _
  | unstarted message =>
    cases h
    exact .unstarted _
  | unusable message =>
    cases h
    exact .unusable _

/-- An expander that starts a process fails as the process does, for a header without null
characters in its name. -/
theorem expanderFails_of_process {invocation : Text → List Text → Invocation}
    {cut : Text → Text → List Text} {program : Text}
    {process : Invocation → Preprocessor.Outcome} {header : Text} (hnul : '\x00' ∉ header)
    {names : List Text} {cause : Preprocessor.ExpansionError}
    (h : (Preprocessor.expanderOf invocation
      (fun header => Preprocessor.expansionsOf program header (cut header)) process header
      names).result = .error cause) : ExpanderFails c cause := by
  have hcontains : header.contains '\x00' = false := by simpa using hnul
  unfold Preprocessor.expanderOf at h
  rw [hcontains, if_neg Bool.false_ne_true] at h
  split_ifs at h
  exact expanderFails_of_expansionsOf h

theorem expanderFails_of_expanderOf {cwd : Files.Path}
    {process : Invocation → Preprocessor.Outcome} {header : Text} (hnul : '\x00' ∉ header)
    {names : List Text} {cause : Preprocessor.ExpansionError}
    (h : (expanderOf c cwd process header names).result = .error cause) :
    ExpanderFails c cause := by
  unfold expanderOf at h
  cases hm : c.get .constantMarker with
  | text marker =>
    rw [hm] at h
    exact expanderFails_of_process hnul h
  | broken b =>
    rw [hm] at h
    exact expanderFails_of_process hnul h
  | _ =>
    rw [hm] at h
    dsimp only at h
    split_ifs at h
    cases h
    exact .marker _ (by rw [hm]; rfl)

/-! ### Runs that are started -/

/-- A command line starts a run over the headers that are there. -/
structure Starts (s : Surroundings) (tree : Tree) (a : Arguments) (c : Config)
    (headers : List Text) (g : Generator) : Prop where
  config : configOf s.yaml tree a = .ok c
  paths : AllReachable tree a.headers
  found : headers = a.headers.filter (isHeader tree)
  there : headers ≠ []
  generator : Generator.ofConfig c s.yaml s.outside tree (expandersOf s c tree []) = .ok g

/-- How the run ends that is started. -/
def endedOf (s : Surroundings) (tree : Tree) (c : Config) (headers : List Text) (g : Generator) :
    Except Failure Binding.Result :=
  (g.runWith (expandersOf s c tree) tree headers).result

/-- The export mark can be searched for, what has to be a string in a run is one, and what has to
have a text has one. -/
structure GivesTexts (c : Config) (g : Generator) : Prop where
  exportMark : (c.get .exportMacro).isMark = true
  libraryPrefix : ∃ w, (c.get .functionPrefix).wide? = some w
  marker : ∃ w, (c.get .constantMarker).wide? = some w
  returnName : (c.get .returnName).isWritable = true
  aliases : g.rules.types.IsTextual
  sizes : g.rules.types.IsWritable

namespace Starts

/-- The types of a generator are those of its configuration. -/
theorem fields (h : Starts s tree a c headers g) :
    g.exportMark = c.get .exportMacro ∧ g.rules.libraryPrefix = c.get .functionPrefix ∧
      g.rules.isReturnNameWritable = (c.get .returnName).isWritable := by
  obtain ⟨is, his⟩ := ofConfig_eq h.config s.outside
  have hg := h.generator
  rw [his, mapError_eq_ok_iff] at hg
  obtain ⟨types, -, rfl⟩ := map_eq_ok_iff.mp hg
  exact ⟨rfl, rfl, rfl⟩

theorem isTextual (h : Starts s tree a c headers g) (ht : GivesTexts c g) (x : Expander) :
    (g.under x).IsTextual := by
  obtain ⟨hmark, hprefix, hname⟩ := h.fields
  exact {
    exportMark := (congrArg Datum.isMark hmark).trans ht.exportMark
    libraryPrefix := hprefix ▸ ht.libraryPrefix
    returnName := hname.trans ht.returnName
    types := ht.aliases
    sizes := ht.sizes }

/-- Every header of a run is there, so it is read, or it cannot be. -/
theorem readHeader_cases (h : Starts s tree a c headers g) {header : Text}
    (hm : header ∈ headers) :
    (∃ text, Generator.readHeader tree header = .ok text) ∨
      ∃ problem, Generator.readHeader tree header =
        .error (.headerUnreadable (pathOf header) problem) := by
  rw [h.found, List.mem_filter] at hm
  obtain ⟨bytes, hbytes⟩ := isHeader_iff.mp hm.2
  cases hlock : tree.unreadable? (pathOf header) with
  | none => exact .inl ⟨_, Generator.readHeader_eq_ok_iff.mpr ⟨bytes, hbytes, hlock, rfl⟩⟩
  | some problem => exact .inr ⟨problem, Generator.readHeader_of_unreadable? hbytes hlock⟩

/-- The macros of a header are not defined for a cause that is reported, for a marker that is no
string, for an exhausted reader or for a preprocessor that cannot be used. -/
theorem error_definitionsOf {past : List Invocation} {header text : Text} (hnul : '\x00' ∉ header)
    {e : Failure}
    (hd : (g.under (expandersOf s c tree past)).definitionsOf header text = .error e) :
    IsReported e ∨ (∃ cause, e = .misuse cause ∧ (c.get .constantMarker).wide? = none) ∨
      (∃ cause, e = .exhausted cause) ∨ ∃ message, e = .processUnusable message := by
  rcases Generator.undefined_of_definitionsOf hd with hu | ⟨cause, hx, hc⟩
  · cases hu with
    | preprocessor => exact .inl (.preprocessor _)
    | countMismatch => exact .inl (.countMismatch _ _ _)
    | exhausted => exact .inr (.inr (.inl ⟨_, rfl⟩))
  · cases expanderFails_of_expanderOf hnul hx with
    | failed _ => cases hc
    | unstarted message =>
      cases hc
      exact .inl (.unstarted message)
    | unusable message =>
      cases hc
      exact .inr (.inr (.inr ⟨message, rfl⟩))
    | marker cause hmarker =>
      cases hc
      exact .inr (.inl ⟨cause, rfl, hmarker⟩)

/-- A run that is started fails for a cause that is reported, for a datum of no use, for an
exhausted reader, for a collision without a text or for a preprocessor that cannot be used. -/
theorem error_cases (h : Starts s tree a c headers g) {e : Failure}
    (he : endedOf s tree c headers g = .error e) :
    IsReported e ∨ (∃ cause, e = .misuse cause ∧ ¬GivesTexts c g) ∨
      (∃ cause, e = .exhausted cause) ∨ e = .unwritable ∨
      ∃ message, e = .processUnusable message := by
  rcases Generator.exists_of_runWith_eq_error he with rfl | ⟨past, header, hm, hfirst⟩
  · exact .inr (.inr (.inr (.inl rfl)))
  unfold Generator.offer at hfirst
  rcases h.readHeader_cases hm with ⟨text, hread⟩ | ⟨problem, hread⟩
  · rw [hread] at hfirst
    dsimp only at hfirst
    split at hfirst
    · next e' hd =>
      -- the macros of the header are not defined
      cases hfirst
      rcases error_definitionsOf (Generator.not_mem_of_readHeader hread) hd with
        hr | ⟨cause, rfl, hmarker⟩ | hx | hp
      · exact .inl hr
      · refine .inr (.inl ⟨cause, rfl, fun ht => ?_⟩)
        obtain ⟨w, hw⟩ := ht.marker
        rw [hmarker] at hw
        cases hw
      · exact .inr (.inr (.inl hx))
      · exact .inr (.inr (.inr (.inr hp)))
    · split at hfirst
      · next e' ht =>
        -- a declaration of the header is not tried
        cases hfirst
        obtain ⟨cause, rfl⟩ := Generator.error_trialsOf _ ht
        refine .inr (.inl ⟨cause, rfl, fun htexts => ?_⟩)
        obtain ⟨ts, hts⟩ := (h.isTextual htexts _).exists_trialsOf header text
        rw [hts] at ht
        cases ht
      · cases hfirst
  · rw [hread] at hfirst
    cases hfirst
    exact .inl (.unreadable _ _)

theorem runArguments (h : Starts s tree a c headers g) :
    ∃ events, CommandLine.runArguments s tree a =
      (runHeaders s c g tree headers).after events := by
  have hheaders := existingHeaders_eq_ok_iff.mpr ⟨h.paths, h.found⟩
  refine ⟨missingEvents tree a.headers, ?_⟩
  simp only [CommandLine.runArguments, h.config, hheaders, h.generator, if_neg h.there]

theorem outcome_of_error (h : Starts s tree a c headers g) {e : Failure}
    (he : endedOf s tree c headers g = .error e) :
    (CommandLine.runArguments s tree a).outcome = (endOf tree e).outcome := by
  obtain ⟨events, hrun⟩ := h.runArguments
  unfold endedOf at he
  rw [hrun, outcome_after, runHeaders, he]
  rfl

theorem writeOutput_of_ok (h : Starts s tree a c headers g) {r : Binding.Result}
    (hr : endedOf s tree c headers g = .ok r) :
    ∃ events, CommandLine.runArguments s tree a =
      (writeOutput s c tree headers r).after events := by
  obtain ⟨events, hrun⟩ := h.runArguments
  unfold endedOf at hr
  refine ⟨events ++ (g.runWith (expandersOf s c tree) tree headers).log, ?_⟩
  rw [hrun, runHeaders, hr]
  simp only [Ran.after, List.append_assoc]

end Starts

/-! ### The four ways to end -/

/-- Some header is there. -/
def SomeHeader (tree : Tree) (a : Arguments) : Prop :=
  ∃ p ∈ a.headers, ∃ bytes, tree.read? (pathOf p) = some bytes

/-- The configuration, the headers or the type profiles are of no use. -/
inductive Refused (s : Surroundings) (tree : Tree) (a : Arguments) : Prop
  | config {e : ConfigError} (config : configOf s.yaml tree a = .error e)
      (noAbort : ∀ x, ¬ConfigAborts s.yaml tree a x)
  | headers {c : Config} (config : configOf s.yaml tree a = .ok c)
      (paths : AllReachable tree a.headers)
      (missing : ∀ p ∈ a.headers, tree.read? (pathOf p) = none)
  | types {c : Config} {e : NativeType.LoadError} (config : configOf s.yaml tree a = .ok c)
      (paths : AllReachable tree a.headers) (there : SomeHeader tree a)
      (types : typesOf s.yaml s.outside tree c = .error e)
      (noAbort : ∀ x, ¬TypesAbort s.yaml s.outside tree c x)

/-- The run fails for a cause that is reported, or a file cannot be written. -/
inductive Fails (s : Surroundings) (tree : Tree) (a : Arguments) : Prop
  | run {c : Config} {headers : List Text} {g : Generator} {e : Failure}
      (starts : Starts s tree a c headers g) (ended : endedOf s tree c headers g = .error e)
      (reported : IsReported e)
  | output {c : Config} {headers : List Text} {g : Generator} {r : Binding.Result}
      (starts : Starts s tree a c headers g) (ended : endedOf s tree c headers g = .ok r)
      (output : OutputFails s c tree headers r)

/-- The run has a result and all of it is written, which leads to the last tree. -/
structure Succeeds (s : Surroundings) (tree : Tree) (a : Arguments) (final : Tree) : Prop where
  written : ∃ c headers g r, Starts s tree a c headers g ∧ endedOf s tree c headers g = .ok r ∧
    OutputWritten s c tree headers r final

/-- What aborts a command line, stage by stage: the configuration, a header that cannot be asked
for, the type profiles, the run, and the writing. -/
inductive Aborts (s : Surroundings) (tree : Tree) (a : Arguments) : Abort → Prop
  | config {x : Abort} (config : ConfigAborts s.yaml tree a x) : Aborts s tree a x
  | unreachable {c : Config} {problem : Files.Problem} (config : configOf s.yaml tree a = .ok c)
      (paths : FirstBars tree a.headers problem) : Aborts s tree a (.unreachable problem)
  | types {c : Config} {x : Abort} (config : configOf s.yaml tree a = .ok c)
      (paths : AllReachable tree a.headers) (there : SomeHeader tree a)
      (types : TypesAbort s.yaml s.outside tree c x) : Aborts s tree a x
  | misuse {c : Config} {headers : List Text} {g : Generator} {cause : Misuse}
      (starts : Starts s tree a c headers g)
      (ended : endedOf s tree c headers g = .error (.misuse cause))
      (texts : ¬GivesTexts c g) : Aborts s tree a (.misuse cause)
  | exhausted {c : Config} {headers : List Text} {g : Generator} {cause : Constant.Exhaustion}
      (starts : Starts s tree a c headers g)
      (ended : endedOf s tree c headers g = .error (.exhausted cause)) :
    Aborts s tree a (.exhausted cause)
  | unwritable {c : Config} {headers : List Text} {g : Generator}
      (starts : Starts s tree a c headers g)
      (ended : endedOf s tree c headers g = .error .unwritable) : Aborts s tree a .unwritable
  | process {c : Config} {headers : List Text} {g : Generator} {message : Text}
      (starts : Starts s tree a c headers g)
      (ended : endedOf s tree c headers g = .error (.processUnusable message)) :
    Aborts s tree a (.raised message)
  | output {c : Config} {headers : List Text} {g : Generator} {r : Binding.Result} {x : Abort}
      (starts : Starts s tree a c headers g) (ended : endedOf s tree c headers g = .ok r)
      (output : OutputAborts s c tree headers r x) : Aborts s tree a x

theorem filter_isHeader_eq_nil {paths : List Text} :
    paths.filter (isHeader tree) = [] ↔ ∀ p ∈ paths, tree.read? (pathOf p) = none := by
  rw [List.filter_eq_nil_iff]
  refine forall₂_congr fun p _ => ?_
  rw [isHeader_iff]
  cases tree.read? (pathOf p) <;> simp

theorem filter_isHeader_ne_nil : a.headers.filter (isHeader tree) ≠ [] ↔ SomeHeader tree a := by
  rw [Ne, filter_isHeader_eq_nil, SomeHeader]
  push Not
  refine exists_congr fun p => and_congr_right fun _ => ?_
  rw [Option.ne_none_iff_exists']

/-- With headers that are there, a command line comes as far as its type profiles. -/
theorem outcome_of_ofConfig (hc : configOf s.yaml tree a = .ok c)
    (hpaths : AllReachable tree a.headers) (hthere : SomeHeader tree a) {e : Binding.SetupError}
    (he : Generator.ofConfig c s.yaml s.outside tree (expandersOf s c tree []) = .error e) :
    (runArguments s tree a).outcome = (refuseSetup tree e).outcome := by
  have hheaders := existingHeaders_eq_ok_iff.mpr ⟨hpaths, rfl⟩
  simp only [runArguments, hc, hheaders, he, if_neg (filter_isHeader_ne_nil.mpr hthere)]
  rfl

theorem Refused.outcome (h : Refused s tree a) :
    (runArguments s tree a).outcome = .finished 2 := by
  cases h with
  | @config e hc hno =>
    have hrun : runArguments s tree a = refuseConfig tree e := by
      simp only [runArguments, hc]
    rw [hrun]
    refine (outcome_refuseConfig tree e).resolve_right ?_
    rintro ⟨x, hx⟩
    exact hno x (configAborts_iff.mpr ⟨e, hc, hx⟩)
  | headers hc hpaths hmissing =>
    have hheaders := existingHeaders_eq_ok_iff.mpr ⟨hpaths, rfl⟩
    simp only [runArguments, hc, hheaders, if_pos (filter_isHeader_eq_nil.mpr hmissing)]
    rfl
  | @types c e hc hpaths hthere htypes hno =>
    have he := (error_ofConfig_iff hc (x := expandersOf s c tree [])).mpr ⟨e, htypes, rfl⟩
    rw [outcome_of_ofConfig hc hpaths hthere he]
    refine (outcome_refuseSetup tree _).resolve_right ?_
    rintro ⟨x, hx⟩
    exact hno x ((typesAbort_iff hc).mpr ⟨_, he, hx⟩)

theorem Fails.outcome (h : Fails s tree a) : (runArguments s tree a).outcome = .finished 1 := by
  cases h with
  | run starts ended reported =>
    rw [starts.outcome_of_error ended]
    cases reported <;> rfl
  | output starts ended output =>
    obtain ⟨events, hrun⟩ := starts.writeOutput_of_ok ended
    rw [hrun, outcome_after]
    exact output.outcome

theorem Succeeds.outcome {final : Tree} (h : Succeeds s tree a final) :
    (runArguments s tree a).outcome = .finished 0 ∧ (runArguments s tree a).tree = final := by
  obtain ⟨c, headers, g, r, starts, ended, output⟩ := h
  obtain ⟨events, hrun⟩ := starts.writeOutput_of_ok ended
  rw [hrun]
  exact output.outcome

theorem Aborts.outcome {x : Abort} (h : Aborts s tree a x) :
    (runArguments s tree a).outcome = .aborted x := by
  cases h with
  | config config =>
    obtain ⟨e, hc, hx⟩ := configAborts_iff.mp config
    simpa only [runArguments, hc] using hx
  | unreachable hc hpaths =>
    obtain ⟨cause, hheaders, rfl⟩ := existingHeaders_eq_error_iff.mpr hpaths
    simp only [runArguments, hc, hheaders]
  | types hc hpaths hthere htypes =>
    obtain ⟨e, he, hx⟩ := (typesAbort_iff hc).mp htypes
    rw [outcome_of_ofConfig hc hpaths hthere he, hx]
  | misuse starts ended _ | exhausted starts ended | unwritable starts ended
  | process starts ended =>
    rw [starts.outcome_of_error ended]
    rfl
  | output starts ended output =>
    obtain ⟨events, hrun⟩ := starts.writeOutput_of_ok ended
    rw [hrun, outcome_after]
    exact output.outcome

/-- A run that is started fails, succeeds or is aborted. -/
theorem Starts.ends (starts : Starts s tree a c headers g) :
    Fails s tree a ∨ (∃ final, Succeeds s tree a final) ∨ ∃ x, Aborts s tree a x := by
  cases hresult : endedOf s tree c headers g with
  | ok r =>
    rcases output_cases s c tree headers r with ⟨final, hw⟩ | hf | ⟨x, hx⟩
    · exact .inr (.inl ⟨final, c, headers, g, r, starts, hresult, hw⟩)
    · exact .inl (.output starts hresult hf)
    · exact .inr (.inr ⟨x, .output starts hresult hx⟩)
  | error e =>
    rcases starts.error_cases hresult with
      hr | ⟨cause, rfl, ht⟩ | ⟨cause, rfl⟩ | rfl | ⟨message, rfl⟩
    · exact .inl (.run starts hresult hr)
    · exact .inr (.inr ⟨_, .misuse starts hresult ht⟩)
    · exact .inr (.inr ⟨_, .exhausted starts hresult⟩)
    · exact .inr (.inr ⟨_, .unwritable starts hresult⟩)
    · exact .inr (.inr ⟨_, .process starts hresult⟩)

end HeaderBindings.CommandLine
