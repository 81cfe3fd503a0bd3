import HeaderBindings.Files.Tree
import HeaderBindings.Text.Wide

/-!
# What stands outside a tree

The paths of a tree are texts. A path with surrogates leads out of it, and there may be a file, too:
what becomes of it is left to the system, and so is what becomes of the tree on the way.
-/
namespace HeaderBindings.Files

/-- How a step fails that is left to the system or to a library: with an error of the system, or
otherwise. -/
inductive Fault
  | system (message : Text)
  | other (message : Text)
deriving DecidableEq, Repr

/-- A null character in a path is no error of the system. -/
def Failure.fault (f : Failure) : Fault :=
  if f.problem = .nul then .other f.message.toList else .system f.message.toList

/-- A tree after a step, and why the step failed if it did. -/
structure Stepped where
  tree : Tree
  fault : Option Fault
deriving Repr

/-- The tree of a step, or the tree before one that fails. -/
def Stepped.ofExcept (before : Tree) : Except Failure Tree → Stepped
  | .ok t => ⟨t, none⟩
  | .error f => ⟨before, some f.fault⟩

/-- Files whose paths are no texts: the bytes of one that is there, how the directory of one is
made, and how one is written. -/
structure Outside where
  read? : Tree → WideText → Option (Except Problem Text.Bytes)
  makeParent : Tree → WideText → Stepped
  write : Tree → WideText → Text.Bytes → Stepped

def surrogatesMessage : String := "surrogates not allowed"

/-- Nothing is outside the tree, and nothing can be put there. -/
def Outside.empty : Outside where
  read? _ _ := none
  makeParent t _ := ⟨t, none⟩
  write t _ _ := ⟨t, some (.other surrogatesMessage.toList)⟩

end HeaderBindings.Files
