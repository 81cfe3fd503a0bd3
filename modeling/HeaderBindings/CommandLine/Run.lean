import HeaderBindings.Binding.Setup
import HeaderBindings.CommandLine.Arguments
import HeaderBindings.Config.Loading
import HeaderBindings.Log.Console
import HeaderBindings.Manifest.Basic
import HeaderBindings.PerlModule.Basic

/-!
# Running a command line

A command line is read, its configuration is loaded and overridden by its switches, and the headers
that are there are run. The module is written first and then the manifest, if one is asked for. The
status is 2 when the arguments or the configuration are of no use, 1 when the run or the writing
fails, and 0 otherwise. A run is aborted by a datum of a kind that has no meaning where it stands,
by a number or a string without a text that can be written, by a header or a configuration that the
system does not let it ask for, by a configuration that is nested too deep, and by whatever else a
library or the preprocessor raises.
-/
namespace HeaderBindings.CommandLine

open Binding (Generator SetupError)
open Files (Fault Path Stepped Tree)
open Log (Event)
open Preprocessor (Invocation)

/-- What a command line uses of the system and of libraries: the preprocessor, which may answer
differently after other runs of it, a reader of YAML, a writer of manifests, and what there is
outside the tree. -/
structure Surroundings where
  process : List Invocation → Invocation → Preprocessor.Outcome
  yaml : Files.YamlReader
  writer : Manifest.Writer
  outside : Files.Outside

/-- The surroundings with the readers and writers of this library. -/
def Surroundings.standard (process : Invocation → Preprocessor.Outcome) : Surroundings where
  process _ := process
  yaml := .standard
  writer := .standard
  outside := .empty

/-! ### Configuration -/

inductive ConfigError
  | loading (cause : Config.LoadError)
  | words (cause : Text.WordsError)
  | invalid (cause : Config.Invalid)
deriving Repr

def ConfigError.message : ConfigError → Text
  | .loading cause => cause.message
  | .words cause => cause.message.toList
  | .invalid cause => cause.message

/-- An empty value counts as none. -/
def given? (v : Option Text) : Option Text := v.filter (· ≠ [])

/-- The field with a text in it, if a value is given. -/
def setText (c : Config) (f : Field) (v : Option Text) : Config :=
  match given? v with
  | some t => c.set f (.text t)
  | none => c

/-- The field with more members, if there are any. -/
def appendTexts (c : Config) (f : Field) (ts : List Text) : Config :=
  if ts = [] then c
  else c.set f (.list (Binding.membersOf c f ++ ts.map .text))

/-- The configuration of a file, or the standard one. -/
def loadedConfig (yaml : Files.YamlReader) (tree : Tree) (path : Option Text) :
    Except ConfigError Config :=
  match given? path with
  | none => .ok .standard
  | some p =>
    match Config.standard.load yaml tree p with
    | ⟨c, none⟩ => .ok c
    | ⟨_, some e⟩ => .error (.loading e)

/-- The preprocessor command in place of the configured one, if one is given. -/
def setCommand (c : Config) (command : Option Text) : Except ConfigError Config :=
  match given? command with
  | none => .ok c
  | some t => ((Text.shellWords t).map fun ws => c.set .preprocessor (Config.textList ws)).mapError
      .words

/-- The configuration that a command line asks for. -/
def configOf (yaml : Files.YamlReader) (tree : Tree) (a : Arguments) :
    Except ConfigError Config := do
  let c ← loadedConfig yaml tree a.config
  let c := setText c .outputPd a.output
  let c := setText c .outputManifest a.manifest
  let c := appendTexts c .typesProfiles a.typesProfiles
  let c ← setCommand c a.command
  let c := appendTexts c .includeDirs a.includeDirectories
  let c := setText c .functionPrefix a.libraryPrefix
  let c := setText c .exportMacro a.exportMark
  let c := setText c .moduleName a.moduleName
  let c := if a.lenient then c.set .strictConstants (.bool false) else c
  let _ ← c.validate.mapError .invalid
  .ok c

/-! ### Headers -/

def isHeader (tree : Tree) (path : Text) : Bool := (tree.read? (Path.ofText path).write).isSome

/-- The headers that are there. Each has to be a path that can be asked for. -/
def existingHeaders (tree : Tree) (paths : List Text) : Except Files.Failure (List Text) := do
  paths.forM fun p => (tree.look (Path.ofText p).write).map fun _ => ()
  .ok (paths.filter (isHeader tree))

def missingEvents (tree : Tree) (paths : List Text) : List Event :=
  (paths.filter (!isHeader tree ·)).map .headerMissing

/-! ### Ends -/

/-- Why a run is aborted without a status. -/
inductive Abort
  | misuse (cause : Misuse)
  | exhausted (cause : Constant.Exhaustion)
  | infiniteLength
  | unreachable (problem : Files.Problem)
  | unwritable
  | unencodable
  | raised (message : Text)
deriving DecidableEq, Repr

inductive Outcome
  | stopped (reason : Stop)
  | finished (status : Nat)
  | aborted (cause : Abort)
deriving DecidableEq, Repr

/-- What was reported, the files afterwards, and how it ended. -/
structure Ran where
  events : List Event
  tree : Tree
  outcome : Outcome

namespace Ran

/-- Puts events in front. -/
def after (events : List Event) (r : Ran) : Ran := { r with events := events ++ r.events }

/-- The end of a run in which a step fails: errors of the system have a status. -/
def ofFault (tree : Tree) : Fault → Ran
  | .system message => ⟨[.outputFailed message], tree, .finished 1⟩
  | .other message => ⟨[], tree, .aborted (.raised message)⟩

/-- Goes on after a step unless it has failed. -/
def afterStep (s : Stepped) (next : Tree → Ran) : Ran :=
  match s.fault with
  | some fault => .ofFault s.tree fault
  | none => next s.tree

/-- Goes on after a run that has succeeded so far. -/
def andThen (r : Ran) (next : Tree → Ran) : Ran :=
  if r.outcome = .finished 0 then (next r.tree).after r.events else r

end Ran

/-! ### Output -/

/-- A file that is to be written: how its directory is made and how it is written. -/
structure Target where
  path : Text
  makeParent : Tree → Stepped
  write : Tree → Text.Bytes → Stepped

/-- The file at a path of the tree; its directory is made if it is missing. -/
def Target.inside (path : Text) : Target where
  path := (Path.ofText path).write
  makeParent t := .ofExcept t (t.makeDirectories (Path.ofText path).parent)
  write t content :=
    let p := (Path.ofText path).write
    .ofExcept t ((t.write p content).mapError fun problem => ⟨problem, some p⟩)

def Target.outside (o : Files.Outside) (path : WideText) : Target where
  path := path.shown
  makeParent t := o.makeParent t path
  write t content := o.write t path content

/-- The file that a datum names, if it is a string. -/
def target? (o : Files.Outside) : Datum → Option Target
  | .text path => some (.inside path)
  | .broken b => some (.outside o b.points)
  | _ => none

/-- Writes the module of a result. A file is opened before it turns out that its text cannot be
encoded. -/
def writeModule (c : Config) (tree : Tree) (headers : List Text) (r : Binding.Result)
    (target : Target) : Ran :=
  let moduleName := c.get .moduleName
  Ran.afterStep (target.makeParent tree) fun tree =>
    if !PerlModule.canShow r moduleName then ⟨[], tree, .aborted .unwritable⟩
    else if !PerlModule.canEncode r moduleName (c.get .returnName) then
      Ran.afterStep (target.write tree []) fun tree => ⟨[], tree, .aborted .unencodable⟩
    else
      let content := (PerlModule.Document.ofResult r headers moduleName).render
      Ran.afterStep (target.write tree (Text.Utf8.encode content)) fun tree =>
        ⟨[.moduleWritten r.bindings.length target.path], tree, .finished 0⟩

/-- Writes the manifest of a result, as far as its values can be written. -/
def writeManifest (w : Manifest.Writer) (c : Config) (tree : Tree) (r : Binding.Result)
    (path : WideText) : Ran :=
  let feed := Manifest.Feed.ofResult ⟨c.get .moduleName, c.get .returnName⟩ r
  Ran.afterStep (w feed path tree) fun tree =>
    if feed.isCut then ⟨[], tree, .aborted .unwritable⟩
    else ⟨[.manifestWritten path.shown], tree, .finished 0⟩

/-- Writes the manifest that the configuration asks for, if it does. -/
def writeManifestOf (w : Manifest.Writer) (c : Config) (tree : Tree) (r : Binding.Result) : Ran :=
  let path := c.get .outputManifest
  if path.isEmpty then ⟨[], tree, .finished 0⟩
  else if !path.isWritable then ⟨[], tree, .aborted .unwritable⟩
  else writeManifest w c tree r path.toWide

/-- Writes what the configuration asks for. -/
def writeOutput (s : Surroundings) (c : Config) (tree : Tree) (headers : List Text)
    (r : Binding.Result) : Ran :=
  match target? s.outside (c.get .outputPd) with
  | some target =>
    (writeModule c tree headers r target).andThen fun tree =>
    (writeManifestOf s.writer c tree r).andThen fun tree =>
      ⟨[.commandFinished r.statistics], tree, .finished 0⟩
  | none => ⟨[], tree, .aborted (.misuse .wrongKind)⟩

/-! ### The whole command -/

/-- The end of a run that cannot be set up. -/
def refuse (tree : Tree) (message : Text) : Ran :=
  ⟨[.configurationFailed message], tree, .finished 2⟩

/-- Type profiles are of no use, or worse. -/
def refuseSetup (tree : Tree) : SetupError → Ran
  | .invalid (.misuse cause) => ⟨[], tree, .aborted (.misuse cause)⟩
  | .types (.profile (.misuse cause)) => ⟨[], tree, .aborted (.misuse cause)⟩
  | .types (.profile .infiniteLength) => ⟨[], tree, .aborted .infiniteLength⟩
  | .types (.data cause) =>
    if cause.severity = .unexpected then ⟨[], tree, .aborted (.raised cause.message)⟩
    else refuse tree cause.message
  | e => refuse tree e.message

def refuseConfig (tree : Tree) : ConfigError → Ran
  | .loading (.misuse cause) => ⟨[], tree, .aborted (.misuse cause)⟩
  | .loading (.unreadable cause) => ⟨[], tree, .aborted (.unreachable cause.problem)⟩
  | .loading (.data cause) =>
    match cause.severity with
    | .refused => refuse tree cause.message
    | .exhausted => ⟨[], tree, .aborted (.exhausted .calls)⟩
    | .unexpected => ⟨[], tree, .aborted (.raised cause.message)⟩
  | .invalid (.misuse cause) => ⟨[], tree, .aborted (.misuse cause)⟩
  | e => refuse tree e.message

/-- The end of a run over headers that fails. -/
def endOf (tree : Tree) : Binding.Failure → Ran
  | .misuse cause => ⟨[], tree, .aborted (.misuse cause)⟩
  | .exhausted cause => ⟨[], tree, .aborted (.exhausted cause)⟩
  | .unwritable => ⟨[], tree, .aborted .unwritable⟩
  | .unreachable cause => .ofFault tree cause.fault
  | .processUnstarted message => .ofFault tree (.system message)
  | .processUnusable message => .ofFault tree (.other message)
  | failure => ⟨[.generationFailed failure.message], tree, .finished 1⟩

/-- The expanders of a run, each after the preprocessor runs before. -/
def expandersOf (s : Surroundings) (c : Config) (tree : Tree) (past : List Invocation) :
    Preprocessor.Expander :=
  Binding.expanderOf c ⟨['/'], tree.cwd⟩ (s.process past)

/-- Runs headers and writes what comes of them. -/
def runHeaders (s : Surroundings) (c : Config) (g : Generator) (tree : Tree)
    (headers : List Text) : Ran :=
  let ended := g.runWith (expandersOf s c tree) tree headers
  Ran.after ended.log <|
    match ended.result with
    | .ok r => writeOutput s c tree headers r
    | .error failure => endOf tree failure

def runArguments (s : Surroundings) (tree : Tree) (a : Arguments) : Ran :=
  match configOf s.yaml tree a with
  | .error e => refuseConfig tree e
  | .ok c =>
    match existingHeaders tree a.headers with
    | .error cause => ⟨[], tree, .aborted (.unreachable cause.problem)⟩
    | .ok headers =>
      Ran.after (missingEvents tree a.headers) <|
        if headers = [] then ⟨[.noHeaders], tree, .finished 2⟩
        else
          match Generator.ofConfig c s.yaml s.outside tree (expandersOf s c tree []) with
          | .error e => refuseSetup tree e
          | .ok g => runHeaders s c g tree headers

/-- Carries out a command line. -/
def run (s : Surroundings) (tree : Tree) (words : List Text) : Ran :=
  match Arguments.ofWords words with
  | .error reason => ⟨[], tree, .stopped reason⟩
  | .ok a => runArguments s tree a

/-- The console that a command line asks for. -/
def consoleOf (a : Arguments) : Log.Console := ⟨Log.levelFor a.verbose a.quiet, some .standard⟩

/-- What a command line prints as its log. -/
def printed (words : List Text) (r : Ran) : Text :=
  match Arguments.ofWords words with
  | .error _ => []
  | .ok a => (consoleOf a).print (r.events.map (·.record))

end HeaderBindings.CommandLine
