import HeaderBindings.Argument.Rejection
import HeaderBindings.Binding.Statistics
import HeaderBindings.Constant.Literal
import HeaderBindings.Preprocessor.Invocation

/-!
# Events

Everything that a run reports, each with a level, the channel that it is reported on, and a message.
-/
namespace HeaderBindings.Log

open Constant (TextError Value)
open Preprocessor (Invocation)

inductive Level
  | debug | info | warning | error
deriving DecidableEq, Repr

namespace Level

def label : Level → String
  | .debug => "DEBUG"
  | .info => "INFO"
  | .warning => "WARNING"
  | .error => "ERROR"

/-- Levels are ordered by their severity. -/
def severity : Level → Nat
  | .debug => 10
  | .info => 20
  | .warning => 30
  | .error => 40

end Level

/-- A place in a header. -/
structure Place where
  source : Text
  line : Nat
deriving DecidableEq, Repr

def Place.write (p : Place) : Text := p.source ++ ':' :: Text.ofNat p.line

inductive Event
  | headerStarted (header : Text)
  | headerRead (path : Text) (length : Nat)
  | preprocessorStarted (invocation : Invocation)
  | expansionFailed (expansion : Text) (cause : TextError)
  | expansionNotFinite (expansion : Text)
  | constantsFound (header : Text) (found candidates : Nat)
  | constantKept (name source firstSource : Text) (value : Value)
  | constantsSkipped (header : Text) (failure : Preprocessor.Failure)
  | preprocessorErrors (text : Text)
  | foreignDeclaration (name : Text) (line : Nat) (libraryPrefix : Text)
  | argumentClassified (text parameter : Text)
  | declarationSkipped (name : Text) (place : Place) (cause : Argument.Rejection)
  | bindingRegistered (name parameters : Text)
  | bindingDuplicated (name : Text) (place first : Place)
  | runFinished (statistics : Binding.Statistics)
  | moduleWritten (bindings : Nat) (path : Text)
  | manifestWritten (path : Text)
  | headerMissing (path : Text)
  | noHeaders
  | configurationFailed (message : Text)
  | generationFailed (message : Text)
  | outputFailed (message : Text)
  | commandFinished (statistics : Binding.Statistics)

namespace Event

def invocation? : Event → Option Invocation
  | .preprocessorStarted i => some i
  | _ => none

def level : Event → Level
  | .headerRead .. | .preprocessorStarted .. | .expansionFailed .. | .expansionNotFinite ..
  | .preprocessorErrors .. | .argumentClassified .. | .bindingRegistered .. => .debug
  | .headerStarted .. | .constantsFound .. | .foreignDeclaration .. | .runFinished ..
  | .moduleWritten .. | .manifestWritten .. | .commandFinished .. => .info
  | .constantKept .. | .declarationSkipped .. | .bindingDuplicated .. | .headerMissing .. =>
    .warning
  | .constantsSkipped .. | .noHeaders | .configurationFailed .. | .generationFailed ..
  | .outputFailed .. => .error

def channel : Event → String
  | .headerRead .. => "core.header_text"
  | .preprocessorStarted .. => "core.preprocessor"
  | .expansionFailed .. | .expansionNotFinite .. | .constantsFound .. | .constantKept .. =>
    "core.constants"
  | .foreignDeclaration .. => "core.declarations"
  | .argumentClassified .. => "core.arguments"
  | .headerStarted .. | .constantsSkipped .. | .preprocessorErrors .. | .declarationSkipped ..
  | .bindingRegistered .. | .bindingDuplicated .. | .runFinished .. => "core.emitter"
  | .moduleWritten .. => "gen.pp.writer"
  | .manifestWritten .. => "gen.manifest.writer"
  | .headerMissing .. | .noHeaders | .configurationFailed .. | .generationFailed ..
  | .outputFailed .. | .commandFinished .. => "app.cli"

/-- A source, or a word for one without a name. -/
def sourceText (t : Text) : Text := if t = [] then "<unknown>".toList else t

/-- The message of an event. -/
def message : Event → Text
  | .headerStarted header => "Processing header: ".toList ++ header
  | .headerRead path length =>
    "Read ".toList ++ Text.ofNat length ++ " bytes from ".toList ++ path
  | .preprocessorStarted i =>
    "Running preprocessor: ".toList ++ Text.join [' '] (i.arguments.map WideText.shown)
  | .expansionFailed expansion cause =>
    "Dropping non-evaluable expansion '".toList ++ expansion ++ "': ".toList ++
      cause.message.toList
  | .expansionNotFinite expansion =>
    "Dropping non-finite expansion '".toList ++ expansion ++ ['\'']
  | .constantsFound header found candidates =>
    header ++ ": ".toList ++ Text.ofNat found ++ " of ".toList ++ Text.ofNat candidates ++
      " macros are numeric constants".toList
  | .constantKept name source first value =>
    "Constant ".toList ++ name ++ " from ".toList ++ sourceText source ++
      " already defined in ".toList ++ sourceText first ++ "; keeping ".toList ++ value.write
  | .constantsSkipped header f =>
    "Skipping constants of ".toList ++ header ++ ": ".toList ++ f.message
  | .preprocessorErrors text => text
  | .foreignDeclaration name line libraryPrefix =>
    "Skipping ".toList ++ name ++ " (line ".toList ++ Text.ofNat line ++ "): ".toList ++
      (Argument.Cause.foreignName libraryPrefix).reason.toList
  | .argumentClassified text parameter =>
    "Classified '".toList ++ text ++ "' as ".toList ++ parameter
  | .declarationSkipped name place cause =>
    "Skipping ".toList ++ name ++ " (".toList ++ place.write ++ "): ".toList ++
      cause.message.toList
  | .bindingRegistered name parameters =>
    "Registered ".toList ++ name ++ ": ".toList ++ parameters
  | .bindingDuplicated name place first =>
    "Duplicate binding ".toList ++ name ++ " from ".toList ++ place.write ++
      "; keeping the one from ".toList ++ first.write
  | .runFinished s =>
    "Generated ".toList ++ Text.ofNat s.registered ++ " bindings from ".toList ++
      Text.ofNat s.headers ++ " headers (".toList ++ Text.ofNat s.skipped ++
      " skipped, ".toList ++ Text.ofNat s.duplicates ++ " duplicates), ".toList ++
      Text.ofNat s.constants ++ " constants (".toList ++ Text.ofNat s.collisions ++
      " collisions)".toList
  | .moduleWritten bindings path =>
    "Wrote ".toList ++ Text.ofNat bindings ++ " bindings to ".toList ++ path
  | .manifestWritten path => "Wrote binding manifest to ".toList ++ path
  | .headerMissing path => "Header not found, skipping: ".toList ++ path
  | .noHeaders => "No readable header files given".toList
  | .configurationFailed message => "Configuration error: ".toList ++ message
  | .generationFailed message => "Generation failed: ".toList ++ message
  | .outputFailed message => "I/O error: ".toList ++ message
  | .commandFinished s =>
    "Bound ".toList ++ Text.ofNat s.registered ++ " functions, skipped ".toList ++
      Text.ofNat s.skipped ++ "; ".toList ++ Text.ofNat s.constants ++ " constants".toList

end Event
end HeaderBindings.Log
