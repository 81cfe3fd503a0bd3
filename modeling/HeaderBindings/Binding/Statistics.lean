/-!
# Statistics of a run
-/
namespace HeaderBindings.Binding

structure Statistics where
  headers : Nat
  declarations : Nat
  registered : Nat
  skipped : Nat
  duplicates : Nat
  constants : Nat
  collisions : Nat
deriving DecidableEq, Repr

def Statistics.zero : Statistics := ⟨0, 0, 0, 0, 0, 0, 0⟩

end HeaderBindings.Binding
