import HeaderBindings.Binding.Basic

/-!
# Registers

A register holds bindings in the order in which they came. The first binding of a name stays, and a
later one is turned away.
-/
namespace HeaderBindings.Binding

open Log (Event)

structure Register where
  functions : List BoundFunction
deriving Repr

namespace Register

def empty : Register := ⟨[]⟩

def find? (r : Register) (name : Text) : Option BoundFunction := r.functions.find? (·.name = name)

def names (r : Register) : List Text := r.functions.map (·.name)

def size (r : Register) : Nat := r.functions.length

/-- Adds a binding, unless its name is taken by the binding that is returned. -/
def add (r : Register) (f : BoundFunction) : Register × Option BoundFunction :=
  match r.find? f.name with
  | some first => (r, some first)
  | none => (⟨r.functions ++ [f]⟩, none)

/-- What is reported of a binding that is turned away. -/
def duplicateEvent (f first : BoundFunction) : Event :=
  .bindingDuplicated f.name f.place first.place

end Register
end HeaderBindings.Binding
