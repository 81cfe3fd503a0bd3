import HeaderBindings.Constant.Expression

/-!
# Nodes

A node is an expression as it was read, with what is still needed of its form: whether it could be
bound in a comprehension, and how many expressions stand inside one another in it.
-/
namespace HeaderBindings.Constant

structure Node where
  expr : Expr
  bindable : Bool
  depth : Nat
deriving Repr

namespace Node

/-- The depth of the deepest of some nodes. -/
def deepest (ns : List Node) : Nat := ns.foldl (fun d n => max d n.depth) 0

/-- An expression around some nodes. -/
def around (e : Expr) (ns : List Node) : Node := ⟨e, false, deepest ns + 1⟩

/-- A form without a value around some nodes. -/
def refused (form : Form) (bindable : Bool) (ns : List Node) : Node :=
  ⟨.refused form, bindable, deepest ns + 1⟩

/-- Nodes side by side, which are parts of one form. -/
def parts (bindable : Bool) (ns : List Node) : Node := ⟨.refused .tuple, bindable, deepest ns⟩

end Node
end HeaderBindings.Constant
