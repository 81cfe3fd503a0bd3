import HeaderBindings.Files.Path
import HeaderBindings.Text.Utf8
import HeaderBindings.Text.Quoted

/-!
# Files and directories

A tree holds the files and directories that a program sees, each under the names that lead to it
from the root, and the working directory, which always exists. Following a path name by name needs a
directory at every step but the last. A name has at most 255 bytes and a path at most 4095; no path
holds a null character. Access to a place may be refused: what is there cannot be searched, read or
written, for whatever reason the system gives.
-/
namespace HeaderBindings.Files

open Text (Bytes)

/-- A further reason of the system, by its number and its words. -/
structure SystemError where
  number : Nat
  label : String
  notMissing : number ≠ 2
deriving DecidableEq, Repr

inductive Problem
  | missing | alreadyThere | notADirectory | isADirectory | tooLong | nul
  | other (error : SystemError)
deriving DecidableEq, Repr

/-- A failed operation and, if it is known, the path as it was given. -/
structure Failure where
  problem : Problem
  path : Option Text
deriving DecidableEq, Repr

def Problem.message : Problem → String
  | .missing => "[Errno 2] No such file or directory"
  | .alreadyThere => "[Errno 17] File exists"
  | .notADirectory => "[Errno 20] Not a directory"
  | .isADirectory => "[Errno 21] Is a directory"
  | .tooLong => "[Errno 36] File name too long"
  | .nul => "embedded null byte"
  | .other e => s!"[Errno {e.number}] {e.label}"

/-- A path with such a problem leads nowhere: nothing is there, a directory on the way is missing or
no directory (20), the file is closed (9), or links lead in a circle (40). -/
def Problem.leadsNowhere : Problem → Bool
  | .missing | .notADirectory | .nul => true
  | .other e => [9, 20, 40].contains e.number
  | _ => false

/-- A null character is reported without the path that holds it. -/
def Failure.message (f : Failure) : String :=
  match f.problem, f.path with
  | .nul, _ => Problem.nul.message
  | problem, some p => problem.message ++ ": " ++ String.ofList (Text.quoted p)
  | problem, none => problem.message

def maxNameBytes : Nat := 255

def maxPathBytes : Nat := 4095

def byteCount (t : Text) : Nat := (Text.Utf8.encode t).length

/-- To search is to follow a name in a directory; to write is to change a file or to make something
in a directory. -/
inductive Access
  | search | read | write
deriving DecidableEq, Repr

/-- A place that an access is refused to. -/
structure Lock where
  place : List Text
  access : Access
  error : SystemError
deriving DecidableEq, Repr

structure Tree where
  cwd : List Text
  directories : List (List Text)
  files : List (List Text × Bytes)
  locks : List Lock
deriving Repr

namespace Tree

def content? (t : Tree) (place : List Text) : Option Bytes :=
  (t.files.find? (·.1 = place)).map (·.2)

/-- The working directory and everything above it are directories. -/
def isDirectoryAt (t : Tree) (place : List Text) : Bool :=
  place.isPrefixOf t.cwd || t.directories.contains place

/-- Why an access to a place is refused, if it is. -/
def lock? (t : Tree) (access : Access) (place : List Text) : Option Problem :=
  (t.locks.find? fun l => l.place = place && l.access = access).map fun l => .other l.error

/-- The place that names lead to from a directory. The last name may be missing. -/
def walk (t : Tree) : List Text → List Text → Except Problem (List Text)
  | place, [] => .ok place
  | place, n :: ns =>
    if !t.isDirectoryAt place then
      .error (if (t.content? place).isSome then .notADirectory else .missing)
    else if n = [] then t.walk place ns
    else match t.lock? .search place with
      | some problem => .error problem
      | none =>
        if n = ['.'] then t.walk place ns
        else if n = Path.parentMark then t.walk place.dropLast ns
        else if byteCount n > maxNameBytes then .error .tooLong
        else t.walk (place ++ [n]) ns

/-- The directory that a path is followed from. -/
def origin (t : Tree) (path : Text) : List Text := if path.head? = some '/' then [] else t.cwd

/-- Refuses what is no path wherever it leads. -/
def checkPath (path : Text) : Except Problem Unit :=
  if path.contains '\x00' then .error .nul
  else if path = [] then .error .missing
  else if byteCount path > maxPathBytes then .error .tooLong
  else .ok ()

/-- The place of a path as it is written: a slash at its end asks for a directory. -/
def locate (t : Tree) (path : Text) : Except Problem (List Text) := do
  checkPath path
  t.walk (t.origin path) (Text.splitOn '/' path)

/-- The bytes of the file at a path. -/
def read? (t : Tree) (path : Text) : Option Bytes :=
  match t.locate path with
  | .ok place => t.content? place
  | .error _ => none

/-- The bytes of the file at a path, if there is one. It is a failure of its own that a path cannot
be asked for. -/
def look (t : Tree) (path : Text) : Except Failure (Option Bytes) :=
  match t.locate path with
  | .error problem =>
    if problem.leadsNowhere then .ok none else .error ⟨problem, some path⟩
  | .ok place => .ok (t.content? place)

/-- Why the file at a path cannot be read, if it cannot. -/
def unreadable? (t : Tree) (path : Text) : Option Problem :=
  match t.locate path with
  | .ok place => t.lock? .read place
  | .error _ => none

def isDirectory (t : Tree) (path : Text) : Bool :=
  match t.locate path with
  | .ok place => t.isDirectoryAt place
  | .error _ => false

/-- Puts a file at a place, in the stead of one that is there. -/
def putFile (t : Tree) (place : List Text) (content : Bytes) : Tree :=
  if (t.content? place).isSome then
    { t with files := t.files.map fun f => if f.1 = place then (place, content) else f }
  else { t with files := t.files ++ [(place, content)] }

/-- Asks for a directory at a place. -/
def requireDirectory (t : Tree) (place : List Text) : Except Problem Unit :=
  if t.isDirectoryAt place then .ok ()
  else .error (if (t.content? place).isSome then .notADirectory else .missing)

/-- Asks for leave to write at a place. -/
def requireWrite (t : Tree) (place : List Text) : Except Problem Unit :=
  match t.lock? .write place with
  | some problem => .error problem
  | none => .ok ()

/-- The names of a path without the empty ones at its end. -/
def namesWithoutEnd (path : Text) : List Text :=
  ((Text.splitOn '/' path).reverse.dropWhile (· = [])).reverse

/-- Writes a file; its directory has to be there. A path with a slash at its end is a directory,
whether there is one or not. -/
def write (t : Tree) (path : Text) (content : Bytes) : Except Problem Tree := do
  checkPath path
  if path.getLast? = some '/' then
    let parent ← t.walk (t.origin path) (namesWithoutEnd path).dropLast
    t.requireDirectory parent
    .error .isADirectory
  else
    let place ← t.locate path
    if t.isDirectoryAt place then .error .isADirectory
    else
      t.requireDirectory place.dropLast
      t.requireWrite (if (t.content? place).isSome then place else place.dropLast)
      .ok (t.putFile place content)

/-- Makes one directory. -/
def makeDirectory (t : Tree) (path : Text) : Except Problem Tree := do
  let place ← t.locate path
  if t.isDirectoryAt place || (t.content? place).isSome then .error .alreadyThere
  else
    t.requireDirectory place.dropLast
    t.requireWrite place.dropLast
    .ok { t with directories := t.directories ++ [place] }

/-- Makes the directory of some names, given last name first, with those above it as far as they are
missing. One that is there already is no failure. -/
def makeReversed (t : Tree) (root : Text) : List Text → Except Failure Tree
  | [] => attempt t (Path.write ⟨root, []⟩)
  | n :: above =>
    let path := Path.write ⟨root, (n :: above).reverse⟩
    match t.makeDirectory path with
    | .ok t => .ok t
    | .error .missing => do
      let t ← t.makeReversed root above
      attempt t path
    | .error problem => settle t path problem
where
  attempt (t : Tree) (path : Text) : Except Failure Tree :=
    match t.makeDirectory path with
    | .ok t => .ok t
    | .error problem => settle t path problem
  settle (t : Tree) (path : Text) (problem : Problem) : Except Failure Tree :=
    if t.isDirectory path then .ok t else .error ⟨problem, some path⟩

def makeDirectories (t : Tree) (p : Path) : Except Failure Tree :=
  t.makeReversed p.root p.parts.reverse

end Tree
end HeaderBindings.Files
