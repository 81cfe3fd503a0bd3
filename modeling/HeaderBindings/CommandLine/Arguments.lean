import HeaderBindings.CommandLine.Switch

/-!
# Arguments

The first unbroken run of plain words names the headers; plain words apart from it, unknown
switches, missing values and missing headers are refused. Of a switch given twice the last value
counts, except for those that collect their values. Help is given as soon as it is asked for, unless
a word before has been refused.
-/
namespace HeaderBindings.CommandLine

structure Arguments where
  headers : List Text
  output : Option Text
  manifest : Option Text
  config : Option Text
  typesProfiles : List Text
  command : Option Text
  includeDirectories : List Text
  libraryPrefix : Option Text
  exportMark : Option Text
  moduleName : Option Text
  lenient : Bool
  verbose : Bool
  quiet : Bool
deriving DecidableEq, Repr

namespace Arguments

def empty : Arguments :=
  ⟨[], none, none, none, [], none, [], none, none, none, false, false, false⟩

/-- Takes one switch; verbose and quiet exclude each other. -/
def put (a : Arguments) (s : Switch) (v : Text) : Except Stop Arguments :=
  match s with
  | .help => .error .help
  | .output => .ok { a with output := some v }
  | .manifest => .ok { a with manifest := some v }
  | .config => .ok { a with config := some v }
  | .typesProfile => .ok { a with typesProfiles := a.typesProfiles ++ [v] }
  | .command => .ok { a with command := some v }
  | .includeDirectory => .ok { a with includeDirectories := a.includeDirectories ++ [v] }
  | .libraryPrefix => .ok { a with libraryPrefix := some v }
  | .exportMark => .ok { a with exportMark := some v }
  | .moduleName => .ok { a with moduleName := some v }
  | .lenient => .ok { a with lenient := true }
  | .verbose => if a.quiet then .error .refused else .ok { a with verbose := true }
  | .quiet => if a.verbose then .error .refused else .ok { a with quiet := true }

def putAll (a : Arguments) (settings : List (Switch × Text)) : Except Stop Arguments :=
  settings.foldlM (fun a p => a.put p.1 p.2) a

end Arguments

/-- The switches of one word: those that are complete, and one that needs the next word as its
value. -/
structure Unfolded where
  settings : List (Switch × Text)
  pending : Option Switch
deriving DecidableEq, Repr

namespace Unfolded

/-- Puts a switch without a value in front. -/
def cons (s : Switch) (u : Unfolded) : Unfolded := { u with settings := (s, []) :: u.settings }

/-- A switch with nothing after it. -/
def ofBare (s : Switch) : Unfolded := if s.takesValue then ⟨[], some s⟩ else ⟨[(s, [])], none⟩

/-- A switch with a value. -/
def ofValue (s : Switch) (v : Text) : Except Stop Unfolded :=
  if s.takesValue then .ok ⟨[(s, v)], none⟩ else .error .refused

/-- A short name with a text after it. If the switch takes no value, the text holds more short
names, and at least one. -/
def ofJoined (s : Switch) : Text → Except Stop Unfolded
  | [] => ofValue s []
  | c :: r =>
    if s.takesValue then ofValue s (c :: r)
    else match switch? ['-', c], r with
      | none, _ => .error .refused
      | some next, [] => .ok ((ofBare next).cons s)
      | some next, d :: r => (ofJoined next (d :: r)).map (cons s)

def ofTail (s : Switch) : Tail → Except Stop Unfolded
  | .nothing => .ok (ofBare s)
  | .value v => ofValue s v
  | .joined t => ofJoined s t

end Unfolded

/-- Whether the run of plain words that names the headers is still to come. -/
inductive HeaderRun
  | awaited | running | ended
deriving DecidableEq, Repr

structure Reading where
  arguments : Arguments
  run : HeaderRun
  hasExtras : Bool
deriving DecidableEq, Repr

namespace Reading

def start : Reading := ⟨.empty, .awaited, false⟩

def addExtra (r : Reading) : Reading := { r with hasExtras := true }

/-- Takes a plain word. -/
def addPlain (r : Reading) (t : Text) : Reading :=
  if r.run = .ended then r.addExtra
  else { r with
    arguments := { r.arguments with headers := r.arguments.headers ++ [t] }, run := .running }

/-- A switch ends a run of plain words. -/
def endRun (r : Reading) : Reading := if r.run = .running then { r with run := .ended } else r

def putAll (r : Reading) (settings : List (Switch × Text)) : Except Stop Reading :=
  (r.arguments.putAll settings).map fun a => { r with arguments := a }

def read : Reading → List Word → Except Stop Reading
  | r, [] => .ok r
  | r, .plain t :: ws => (r.addPlain t).read ws
  | r, .endOfSwitches :: ws => (if r.run = .ended then r.addExtra else r).read ws
  | r, .unknown :: ws => r.endRun.addExtra.read ws
  | r, .switch s tail :: ws => do
    let u ← Unfolded.ofTail s tail
    match u.pending, ws with
    | none, ws =>
      let r ← r.endRun.putAll u.settings
      r.read ws
    | some p, .plain v :: ws =>
      let r ← r.endRun.putAll (u.settings ++ [(p, v)])
      r.read ws
    | some _, _ => .error .refused

end Reading

/-- The arguments of a command line. -/
def Arguments.ofWords (ts : List Text) : Except Stop Arguments := do
  let words ← Word.readAll ts
  let r ← Reading.start.read words
  if r.hasExtras || r.arguments.headers.isEmpty then .error .refused else .ok r.arguments

end HeaderBindings.CommandLine
