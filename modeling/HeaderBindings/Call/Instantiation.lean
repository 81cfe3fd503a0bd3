import HeaderBindings.Text.Basic

/-!
# Instantiations

Code that handles matrices is written once for every element type that a module is built for. The
six element types each have a letter, a C type, and the matrix type that stores them.
-/
namespace HeaderBindings.Call

inductive Instantiation
  | byte | short | ushort | long | float | double
deriving DecidableEq, Repr

namespace Instantiation

def all : List Instantiation := [.byte, .short, .ushort, .long, .float, .double]

def letter : Instantiation → Char
  | .byte => 'B'
  | .short => 'S'
  | .ushort => 'U'
  | .long => 'L'
  | .float => 'F'
  | .double => 'D'

def cType : Instantiation → String
  | .byte => "PDL_Byte"
  | .short => "PDL_Short"
  | .ushort => "PDL_Ushort"
  | .long => "PDL_Long"
  | .float => "PDL_Float"
  | .double => "PDL_Double"

def matrixType : Instantiation → String
  | .byte => "CV_8UC1"
  | .short => "CV_16SC1"
  | .ushort => "CV_16UC1"
  | .long => "CV_32SC1"
  | .float => "CV_32FC1"
  | .double => "CV_64FC1"

def ofLetter? (t : Text) : Option Instantiation := all.find? fun i => [i.letter] = t

theorem ofLetter?_letter (i : Instantiation) : ofLetter? [i.letter] = some i := by
  cases i <;> rfl

end Instantiation
end HeaderBindings.Call
