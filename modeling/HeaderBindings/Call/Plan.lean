import HeaderBindings.Argument.Descriptor
import HeaderBindings.Call.Instantiation

/-!
# Call plans

A binding calls its native function once. Every matrix argument needs a matrix header over its
buffer first; every other argument, and the result, is a value in a buffer of its own.
-/
namespace HeaderBindings.Call

open Argument (Descriptor)
open NativeType (Element)

/-- A buffer that holds one value of a C type. -/
structure Slot where
  name : Text
  type : Text
deriving DecidableEq, Repr

/-- The value in a buffer, as an expression. -/
def Slot.write (s : Slot) : Text :=
  "*(".toList ++ s.type ++ "*)$P(".toList ++ s.name ++ [')']

def matrixVariable (name : Text) : Text := "mat_".toList ++ name

def pointerVariable (name : Text) : Text := "pmat_".toList ++ name

inductive Operand
  | matrix (slot : Slot)
  | value (slot : Slot)
deriving DecidableEq, Repr

namespace Operand

def slot : Operand → Slot
  | .matrix s => s
  | .value s => s

def isMatrix : Operand → Bool
  | .matrix _ => true
  | .value _ => false

def write : Operand → Text
  | .matrix s => pointerVariable s.name
  | .value s => s.write

end Operand

structure Expression where
  function : Text
  operands : List Operand
  target : Option Slot
deriving DecidableEq, Repr

def Expression.write (e : Expression) : Text :=
  let call := e.function ++ '(' :: Text.join [',', ' '] (e.operands.map Operand.write) ++ [')', ';']
  match e.target with
  | some s => s.write ++ " = ".toList ++ call
  | none => call

/-- A matrix header over the buffer of an argument. -/
structure MatrixStep where
  name : Text
  rows : Text
  columns : Text
  element : Element
deriving DecidableEq, Repr

namespace MatrixStep

def variableName (s : MatrixStep) : Text := matrixVariable s.name

def pointerName (s : MatrixStep) : Text := pointerVariable s.name

/-- An explicit element type fixes the matrix type; otherwise it is that of the instantiation. -/
def matrixType (s : MatrixStep) (i : Instantiation) : String :=
  match s.element with
  | .int => "CV_32SC1"
  | .float => "CV_32FC1"
  | .double => "CV_64FC1"
  | .native => i.matrixType

/-- The step for a descriptor; only matrix arguments need one. -/
def ofDescriptor? (d : Descriptor) : Option MatrixStep :=
  if d.isReturn || !d.isMatrix then none
  else match d.axes with
    | rows :: columns :: _ => some ⟨d.name, rows.write, columns.write, d.element⟩
    | _ => none

end MatrixStep

def slotOf (d : Descriptor) : Slot := ⟨d.name, d.type⟩

/-- The operand for a descriptor; the return slot is none. -/
def Operand.ofDescriptor? (d : Descriptor) : Option Operand :=
  if d.isReturn then none
  else if d.isMatrix then some (.matrix (slotOf d))
  else some (.value (slotOf d))

structure Plan where
  steps : List MatrixStep
  call : Expression
deriving DecidableEq, Repr

namespace Plan

def ofDescriptors (function : Text) (ds : List Descriptor) : Plan where
  steps := ds.filterMap MatrixStep.ofDescriptor?
  call := {
    function := function
    operands := ds.filterMap Operand.ofDescriptor?
    target := (ds.filter (·.isReturn)).getLast?.map slotOf }

/-- Whether the code differs between instantiations. -/
def isGeneric (p : Plan) : Bool := !p.steps.isEmpty

end Plan
end HeaderBindings.Call
