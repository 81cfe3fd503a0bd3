import HeaderBindings.Binding.Run
import HeaderBindings.Config.Validation
import HeaderBindings.NativeType.ProfileFiles

/-!
# Setting up a run

A valid configuration and the type profiles that it names give a generator. Unless another expander
is given, macros are expanded by the preprocessor command of the configuration.
-/
namespace HeaderBindings.Binding

open Files (Outside Path Tree YamlReader)
open Preprocessor (Command Expander Invocation Outcome)

inductive SetupError
  | invalid (cause : Config.Invalid)
  | types (cause : NativeType.LoadError)
deriving Repr

def SetupError.message : SetupError → Text
  | .invalid cause => cause.message
  | .types cause => cause.message

/-- The strings in a field, which is empty when it holds no list of strings. -/
def stringsOf (c : Config) (f : Field) : List WideText := (c.get f).strings?.getD []

/-- The members of a field that holds a list. -/
def membersOf (c : Config) (f : Field) : List Datum :=
  match c.get f with
  | .list ds => ds
  | _ => []

/-- The preprocessor command of a configuration, with a marker. -/
def commandOf (c : Config) (marker : Text) : Command :=
  ⟨stringsOf c .preprocessor, stringsOf c .includeDirs, marker⟩

/-- The expander of a configuration; its marker must be a string once it is used. -/
def expanderOf (c : Config) (cwd : Path) (process : Invocation → Outcome) : Expander :=
  match c.get .constantMarker with
  | .text marker => (commandOf c marker).expander cwd process
  | .broken b => (commandOf c []).wideExpander b.points cwd process
  | _ => fun _ names => ⟨[], if names = [] then .ok [] else .error (.misuse .wrongKind)⟩

/-- The generator of a configuration. -/
def Generator.ofConfig (c : Config) (yaml : YamlReader) (outside : Outside) (tree : Tree)
    (expander : Expander) : Except SetupError Generator := do
  let _ ← c.validate.mapError .invalid
  let instantiations ← c.instantiations.mapError .invalid
  let types ← (NativeType.Registry.load yaml outside tree (stringsOf c .typesProfiles)
    (membersOf c .matrixTypes)).mapError .types
  .ok {
    exportMark := c.get .exportMacro
    rules := {
      libraryPrefix := c.get .functionPrefix
      returnName := (c.get .returnName).toText
      isReturnNameWritable := (c.get .returnName).isWritable
      types := types
      instantiations := instantiations }
    expander := expander
    constantsRequired := !(c.get .strictConstants).isEmpty
    tableName := c.get .constantsName }

end HeaderBindings.Binding
