import HeaderBindings.Text.Basic

/-!
# Native types

The types that a binding can pass: matrices by pointer, and scalars and short vectors by value. A
matrix has the element type of the instantiation it is called with.
-/
namespace HeaderBindings.NativeType

inductive Kind
  | matrix | scalar | vector | void
deriving DecidableEq, Repr

def Kind.label : Kind → String
  | .matrix => "matrix"
  | .scalar => "scalar"
  | .vector => "vector"
  | .void => "void"

inductive Element
  | int | float | double | native
deriving DecidableEq, Repr

def Element.label : Element → String
  | .int => "int"
  | .float => "float"
  | .double => "double"
  | .native => "native"

def Element.all : List Element := [.int, .float, .double, .native]

def Element.ofLabel? (t : Text) : Option Element := Element.all.find? (·.label.toList = t)

/-- Whether a declaration string names the element type. -/
def Element.isExplicit (e : Element) : Bool := e ≠ .native

/-- What is known of a type: its kind, its elements, and how many there are. -/
structure Shape where
  kind : Kind
  element : Element
  length : Int
deriving DecidableEq, Repr

end HeaderBindings.NativeType
