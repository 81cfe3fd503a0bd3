import HeaderBindings.Files.Path
import HeaderBindings.Text.Wide

/-!
# Invocations of the preprocessor

The preprocessor reads a translation unit from its standard input: an `#include` of the header, and
for every macro name a marker line and the name on a line of its own. A run ends with a status and
two texts; or the program is not there, cannot be started for another reason of the system, or is
given or gives something that cannot be encoded or decoded.
-/
namespace HeaderBindings.Preprocessor

open Files (Path)

structure Invocation where
  arguments : List WideText
  input : WideText
deriving DecidableEq, Repr

inductive Outcome
  | notFound
  | unstarted (message : Text)
  | unusable (message : Text)
  | exited (status : Int) (output errors : Text)
deriving DecidableEq, Repr

inductive Cause
  | notFound (program : Text)
  | exited (status : Int)
  | reported (message : Text)
deriving DecidableEq, Repr

/-- Why the macros of a header were not expanded. -/
structure Failure where
  cause : Cause
  header : Text
  errors : Text
deriving DecidableEq, Repr

def Failure.message (f : Failure) : Text :=
  match f.cause with
  | .notFound program => "Preprocessor not found: ".toList ++ program
  | .exited status =>
    "Preprocessor exited with status ".toList ++ Text.ofInt status ++ " for ".toList ++ f.header
  | .reported message => message

def defaultMarker : Text := "__CVBINDGEN_CONSTANT_MARKER__".toList

def defaultCommand : List Text := ["cpp".toList, "-P".toList]

/-- A command, where its headers are searched, and the marker that it is to pass through. -/
structure Command where
  words : List WideText
  includeDirectories : List WideText
  marker : Text
deriving DecidableEq, Repr

def Command.standard : Command := ⟨defaultCommand.map .ofText, [], defaultMarker⟩

/-- A command of no words cannot be run. -/
def Command.isRunnable (c : Command) : Bool := c.words ≠ []

def noCommandMessage : String := "Preprocessor command must not be empty"

/-- The lines of a translation unit. -/
def unitLines (cwd : Path) (header : Text) (names : List Text) (marker : Text) : List Text :=
  ("#include \"".toList ++ ((Path.ofText header).resolve cwd).write ++ ['"']) ::
    names.flatMap fun name => [marker, name]

def translationUnit (cwd : Path) (header : Text) (names : List Text) (marker : Text) : Text :=
  Text.join ['\n'] (unitLines cwd header names marker) ++ ['\n']

/-- The translation unit of a marker that is no text. -/
def wideUnit (cwd : Path) (header : Text) (names : List Text) (marker : WideText) : WideText :=
  WideText.ofText (translationUnit cwd header [] []) ++
    names.flatMap fun name => marker ++ WideText.ofText ('\n' :: name ++ ['\n'])

namespace Command

def includeOption (directory : WideText) : WideText := WideText.ofText ['-', 'I'] ++ directory

/-- The directory of the header is searched first. -/
def arguments (c : Command) (cwd : Path) (header : Text) : List WideText :=
  c.words ++ includeOption (.ofText ((Path.ofText header).resolve cwd).parent.write) ::
    c.includeDirectories.map includeOption ++ [.ofText ['-']]

def invocation (c : Command) (cwd : Path) (header : Text) (names : List Text) : Invocation :=
  ⟨c.arguments cwd header, .ofText (translationUnit cwd header names c.marker)⟩

end Command
end HeaderBindings.Preprocessor
