import HeaderBindings.CommandLine.Help
import HeaderBindings.CommandLine.Run

/-!
# The program

The files that a command line and its configuration name are read into a tree, the command line is
run on it, and what is new in the tree is written. No other program is started: a preprocessor
command is reported as not found.
-/
namespace HeaderBindings.Program

open CommandLine (Arguments Outcome Stop)
open Files (Path Tree)

/-- The paths of the directories above a path and the path itself, outermost first. -/
def steps (p : Path) : List Path := (List.range p.parts.length).map fun n =>
  ⟨p.root, p.parts.take (n + 1)⟩

/-- Puts a directory or a file of the system into a tree. -/
def readStep (tree : Tree) (p : Path) : IO Tree := do
  let place := (← IO.currentDir) / String.ofList p.write
  if ← place.isDir then
    return (tree.makeDirectory p.write).toOption.getD tree
  let .ok bytes ← (IO.FS.readBinFile place).toBaseIO | return tree
  return (tree.write p.write bytes.toList).toOption.getD tree

def readPath (tree : Tree) (path : Text) : IO Tree :=
  (steps (Path.ofText path)).foldlM readStep tree

/-- The paths that a configuration names. -/
def configured (tree : Tree) (a : Arguments) : List Text :=
  match CommandLine.configOf .standard tree a with
  | .ok c => (Binding.stringsOf c .typesProfiles).filterMap WideText.toText? ++
      [c.get .outputPd, c.get .outputManifest].filterMap Datum.text?
  | .error _ => []

/-- The part of the system that a command line needs. -/
def readTree (words : List Text) : IO Tree := do
  let cwd := Path.ofText (← IO.currentDir).toString.toList
  let tree : Tree := ⟨cwd.parts, [], [], []⟩
  match Arguments.ofWords words with
  | .error _ => return tree
  | .ok a =>
    let tree ← (a.headers ++ a.config.toList).foldlM readPath tree
    (configured tree a).foldlM readPath tree

def systemName (place : List Text) : String := String.ofList (Path.write ⟨['/'], place⟩)

/-- Writes the directories and files by which a tree differs from the one before. -/
def writeTree (before after : Tree) : IO Unit := do
  for d in after.directories do
    unless before.directories.contains d do
      IO.FS.createDirAll (systemName d)
  for (place, content) in after.files do
    unless before.content? place = some content do
      IO.FS.writeBinFile (systemName place) ⟨content.toArray⟩

def status : Outcome → UInt32
  | .stopped .help => 0
  | .stopped .refused => 2
  | .finished n => n.toUInt32
  | .aborted _ => 1

/-- What is said of an outcome beside the log. -/
def remark : Outcome → String
  | .stopped .refused => CommandLine.refusal
  | .aborted (.unreachable problem) => problem.message ++ "\n"
  | .aborted .unwritable => Text.unwritableMessage ++ "\n"
  | .aborted .unencodable => Files.surrogatesMessage ++ "\n"
  | .aborted (.raised message) => String.ofList message ++ "\n"
  | .aborted _ => "The configuration holds a value of a kind that has no meaning there\n"
  | _ => ""

/-- Carries out a command line and gives its status. -/
def run (words : List Text) : IO UInt32 := do
  let tree ← readTree words
  let ran := CommandLine.run (.standard fun _ => .notFound) tree words
  IO.eprint (String.ofList (CommandLine.printed words ran) ++ remark ran.outcome)
  if ran.outcome = .stopped .help then IO.print CommandLine.help
  writeTree tree ran.tree
  return status ran.outcome

end HeaderBindings.Program

def main (words : List String) : IO UInt32 :=
  HeaderBindings.Program.run (words.map String.toList)
