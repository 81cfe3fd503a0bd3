import HeaderBindings.Constant.Value

/-!
# Constant tables

A table keeps the first definition of every name, in the order in which the names came. A later
definition of a known name changes no value; it is kept as a collision with the first.
-/
namespace HeaderBindings.Constant

structure Definition where
  name : Text
  value : Value
  source : Text
deriving Repr

structure Collision where
  name : Text
  firstSource : Text
  source : Text
deriving DecidableEq, Repr

structure Table where
  definitions : List Definition
  collisions : List Collision
deriving Repr

namespace Table

def empty : Table := ⟨[], []⟩

def find? (t : Table) (name : Text) : Option Definition := t.definitions.find? (·.name = name)

def get? (t : Table) (name : Text) : Option Value := (t.find? name).map (·.value)

def source? (t : Table) (name : Text) : Option Text := (t.find? name).map (·.source)

def contains (t : Table) (name : Text) : Bool := (t.find? name).isSome

def size (t : Table) : Nat := t.definitions.length

def entries (t : Table) : List (Text × Value) := t.definitions.map fun d => (d.name, d.value)

/-- The table with a definition added, and whether the name is new. -/
def add (t : Table) (d : Definition) : Table × Bool :=
  match t.find? d.name with
  | some first => (⟨t.definitions, t.collisions ++ [⟨d.name, first.source, d.source⟩]⟩, false)
  | none => (⟨t.definitions ++ [d], t.collisions⟩, true)

/-- Whether the value that a definition gives way to, if there is one, has a text. -/
def yieldsReadably (t : Table) (d : Definition) : Bool := (t.get? d.name).all (·.isWritable)

/-- Adds definitions in order and counts the new names. -/
def merge (t : Table) : List Definition → Table × Nat
  | [] => (t, 0)
  | d :: ds =>
    let (t, isNew) := t.add d
    let (t, count) := t.merge ds
    (t, if isNew then count + 1 else count)

/-- The definitions of some pairs, all from one source. -/
def definitionsOf (source : Text) (pairs : List (Text × Value)) : List Definition :=
  pairs.map fun p => ⟨p.1, p.2, source⟩

theorem find?_add (t : Table) (d : Definition) (name : Text) :
    (t.add d).1.find? name =
      (t.find? name).or (if d.name = name then some d else none) := by
  unfold add
  split
  · next first h =>
    by_cases hn : d.name = name
    · subst hn; simp [find?] at h ⊢; simp [h]
    · simp [find?, hn]
  · next h =>
    simp [find?, List.find?_append, List.find?_cons]
    split <;> simp_all

theorem size_add (t : Table) (d : Definition) :
    (t.add d).1.size + (t.add d).1.collisions.length = t.size + t.collisions.length + 1 := by
  unfold add size
  split <;> simp <;> omega

end Table
end HeaderBindings.Constant
