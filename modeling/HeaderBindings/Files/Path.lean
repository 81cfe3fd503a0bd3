import HeaderBindings.Text.Basic

/-!
# Paths

A path is a root and the names after it. Empty names and single dots are dropped when it is read;
double dots stay until the path is resolved. Exactly two slashes in front are a root of their own.
-/
namespace HeaderBindings.Files

structure Path where
  root : Text
  parts : List Text
deriving DecidableEq, Repr

namespace Path

def parentMark : Text := ['.', '.']

/-- The slashes in front of a path: none, one, or exactly two. -/
def rootOf (t : Text) : Text :=
  match t.takeWhile (· = '/') with
  | ['/', '/'] => ['/', '/']
  | [] => []
  | _ => ['/']

def ofText (t : Text) : Path :=
  ⟨rootOf t, (Text.splitOn '/' t).filter fun p => p ≠ [] && p ≠ ['.']⟩

def write (p : Path) : Text :=
  if p.root = [] ∧ p.parts = [] then ['.'] else p.root ++ Text.join ['/'] p.parts

/-- The last part, or nothing. -/
def name (p : Path) : Text := p.parts.getLast?.getD []

def parent (p : Path) : Path := ⟨p.root, p.parts.dropLast⟩

def isAbsolute (p : Path) : Bool := p.root ≠ []

/-- Follows the parts from a directory given by its names; nothing is above the root. -/
def follow (start parts : List Text) : List Text :=
  parts.foldl (fun place p => if p = parentMark then place.dropLast else place ++ [p]) start

/-- The absolute path without double dots, seen from a working directory. -/
def resolve (p cwd : Path) : Path :=
  ⟨['/'], follow (if p.isAbsolute then [] else cwd.parts) p.parts⟩

end Path
end HeaderBindings.Files
