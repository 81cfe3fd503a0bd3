import HeaderBindings.Text.Digit

/-!
# Switches

The switches of the command line and how a word names one. A long name may be shortened as long as
one switch alone is meant, and its value may follow an equals sign; a short name may be followed by
its value, or by more short names, without a blank. An equals sign right after the first short name
of a word is passed over. A word with a dash in front that is a negative number or holds a space is
no switch.
-/
namespace HeaderBindings.CommandLine

open Text

inductive Switch
  | help | output | manifest | config | typesProfile | command | includeDirectory
  | libraryPrefix | exportMark | moduleName | lenient | verbose | quiet
deriving DecidableEq, Repr

namespace Switch

def all : List Switch := [
  .help, .output, .manifest, .config, .typesProfile, .command, .includeDirectory, .libraryPrefix,
  .exportMark, .moduleName, .lenient, .verbose, .quiet]

def names : Switch → List String
  | .help => ["-h", "--help"]
  | .output => ["-o", "--output"]
  | .manifest => ["--manifest"]
  | .config => ["--config"]
  | .typesProfile => ["--types-profile"]
  | .command => ["--cpp"]
  | .includeDirectory => ["-I"]
  | .libraryPrefix => ["--prefix"]
  | .exportMark => ["--export-macro"]
  | .moduleName => ["--module"]
  | .lenient => ["--no-strict-constants"]
  | .verbose => ["--verbose", "-v"]
  | .quiet => ["--quiet", "-q"]

def takesValue : Switch → Bool
  | .help => false
  | .lenient => false
  | .verbose => false
  | .quiet => false
  | _ => true

end Switch

def nameTable : List (Text × Switch) :=
  Switch.all.flatMap fun s => s.names.map fun n => (n.toList, s)

def switch? (name : Text) : Option Switch := (nameTable.find? (·.1 = name)).map (·.2)

/-- What a word holds after the name of a switch: a text after a short name may be a value or more
short names, one after a long name is a value. -/
inductive Tail
  | nothing
  | joined (t : Text)
  | value (t : Text)
deriving DecidableEq, Repr

/-- A text after a name and an equals sign. -/
def Tail.afterEquals (name v : Text) : Tail := if name.length = 2 then .joined v else .value v

/-- A word of the command line. -/
inductive Word
  | plain (t : Text)
  | endOfSwitches
  | switch (s : Switch) (tail : Tail)
  | unknown
deriving DecidableEq, Repr

/-- Why the command line is not carried out: it is refused, or help was asked for. -/
inductive Stop
  | refused
  | help
deriving DecidableEq, Repr

namespace Word

/-- A dash and digits, with a point before some of them if there is one. -/
def isNegativeNumber (t : Text) : Bool :=
  match t with
  | '-' :: r =>
    let r := if r.getLast? = some '\n' then r.dropLast else r
    let rest := r.dropWhile isDecimal
    match rest with
    | [] => r ≠ []
    | '.' :: places => places ≠ [] && places.all isDecimal
    | _ => false
  | _ => false

/-- A word that names no switch in full. -/
def readShortened (t : Text) : Except Stop Word :=
  let found : List (Switch × Tail) :=
    match t with
    | '-' :: '-' :: _ =>
      let (name, tail) := match cutAt? '=' t with
        | some (name, v) => (name, Tail.value v)
        | none => (t, .nothing)
      (nameTable.filter fun e => startsWith e.1 name).map fun e => (e.2, tail)
    | '-' :: c :: r => (switch? ['-', c]).toList.map fun s => (s, .joined r)
    | _ => []
  match found with
  | [(s, tail)] => .ok (.switch s tail)
  | _ :: _ :: _ => .error .refused
  | [] => .ok (if isNegativeNumber t || t.contains ' ' then .plain t else .unknown)

def read (t : Text) : Except Stop Word :=
  if t.head? ≠ some '-' then .ok (.plain t)
  else match switch? t with
    | some s => .ok (.switch s .nothing)
    | none =>
      if t.length = 1 then .ok (.plain t)
      else match cutAt? '=' t with
        | some (name, v) =>
          match switch? name with
          | some s => .ok (.switch s (.afterEquals name v))
          | none => readShortened t
        | none => readShortened t

/-- The words of a command line. After two dashes alone, every word is plain. -/
def readAll : List Text → Except Stop (List Word)
  | [] => .ok []
  | t :: ts =>
    if t = ['-', '-'] then .ok (.endOfSwitches :: ts.map .plain)
    else do
      let w ← read t
      let ws ← readAll ts
      .ok (w :: ws)

end Word
end HeaderBindings.CommandLine
