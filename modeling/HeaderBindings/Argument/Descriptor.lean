import HeaderBindings.Argument.Pieces
import HeaderBindings.Argument.Tokens
import HeaderBindings.Parameter.Basic

/-!
# Classified arguments

A descriptor says how an argument is passed: its direction, its element type and its axes. Matrices
have two axes named after the argument, everything else has one axis of fixed size. Classification
of a declaration stops at the first part that is rejected.
-/
namespace HeaderBindings.Argument

open NativeType (Kind Element Shape Registry)

/-- A parameter together with what the native call needs to know of it. -/
structure Descriptor extends Parameter where
  type : Text
  pointerDepth : Nat
  isConst : Bool
  kind : Kind
  qualifiers : Text
  isReturn : Bool
deriving DecidableEq, Repr

namespace Descriptor

def isMatrix (d : Descriptor) : Bool := d.kind = .matrix

/-- The declaration string of some descriptors. -/
def signature (ds : List Descriptor) : Text := Parameter.writeAll (ds.map (·.toParameter))

end Descriptor

/-! ### Stages of classification -/

/-- The shape of the base type, if it may be passed with this indirection. -/
def shapeOf (registry : Registry) (isReturn : Bool) (tokens : Tokens) : Except Refusal Shape :=
  match registry.find? tokens.baseType with
  | .error (.unsupportedWidth base bits) => reject (.unsupportedWidth base bits) tokens.text
  | .error (.misuse cause) => .error (.misuse cause)
  | .ok none => reject .unknownType tokens.text
  | .ok (some shape) =>
    if shape.kind = .matrix then
      if tokens.pointerDepth < 1 then reject .arrayByValue tokens.text
      else if isReturn then reject .returnedArray tokens.text
      else .ok shape
    else if tokens.pointerDepth > 0 then reject .pointerToScalar tokens.text
    else if shape.kind = .void && !isReturn then reject .unknownType tokens.text
    else .ok shape

/-- Results are written; matrices that are not `const` are read and written. -/
def roleOf (isReturn : Bool) (tokens : Tokens) (shape : Shape) : Role :=
  if isReturn then .output
  else if shape.kind = .matrix && !tokens.isConst then .inout
  else .input

/-- Two characters that are equal but for their case; the long s counts as an s. -/
def sameLetter (letter c : Char) : Bool :=
  c = letter || c = letter.toUpper || (letter = 's' && c = 'ſ')

/-- Whether a name ends in `count` or `counts`, in any case. -/
def isCountName (name : Text) : Bool :=
  let endsIn := fun (word : String) =>
    let w := word.toList
    w.length ≤ name.length &&
      (List.zipWith sameLetter w (name.drop (name.length - w.length))).all id
  endsIn "count" || endsIn "counts"

/-- Matrices of counts hold integers whatever they are instantiated with. -/
def elementOf (tokens : Tokens) (shape : Shape) : Element :=
  if shape.kind = .matrix && tokens.name.any isCountName then .int else shape.element

/-- A matrix has two axes named after the argument without its underscores. -/
def axesOf (tokens : Tokens) (shape : Shape) : Except Rejection (List Axis) :=
  if shape.kind = .matrix then
    let axis := (tokens.name.getD []).filter (· ≠ '_')
    if axis.isEmpty then .error ⟨.noAxis, tokens.text⟩
    else .ok [.named (axis ++ ['0']), .named (axis ++ ['1'])]
  else .ok [.size shape.length]

/-- Classifies one argument or a return type; a void return has no descriptor. -/
def classify (registry : Registry) (returnName : Text) (isReturn : Bool) (t : Text) :
    Except Refusal (Option Descriptor) := do
  let tokens ← (Tokens.read isReturn t).mapError .rejected
  let shape ← shapeOf registry isReturn tokens
  if shape.kind = .void then .ok none
  else
    let axes ← (axesOf tokens shape).mapError .rejected
    .ok (some {
      type := tokens.baseType
      pointerDepth := tokens.pointerDepth
      isConst := tokens.isConst
      name := if isReturn then returnName else tokens.name.getD []
      role := roleOf isReturn tokens shape
      element := elementOf tokens shape
      axes := axes
      kind := shape.kind
      qualifiers := tokens.qualifiers
      isReturn := isReturn })

/-! ### Whole declarations -/

/-- The outcomes for the return type and each argument, with the text of each. -/
def outcomes (registry : Registry) (returnName returnType arguments : Text) :
    List (Text × Except Refusal (Option Descriptor)) :=
  (returnType, classify registry returnName true returnType) ::
    match split arguments with
    | .error r => [(arguments, .error (.rejected r))]
    | .ok ts => ts.map fun t => (t, classify registry returnName false t)

/-- The descriptors of a declaration: the return slot first, unless it is void, then the arguments
in order. -/
def classifyAll (registry : Registry) (returnName returnType arguments : Text) :
    Except Refusal (List Descriptor) := do
  let found ← (outcomes registry returnName returnType arguments).mapM (·.2)
  .ok (found.filterMap id)

/-- The texts that were classified before the first refusal, with their descriptors. -/
def classifiedBefore : List (Text × Except Refusal (Option Descriptor)) → List (Text × Descriptor)
  | (t, .ok (some d)) :: rest => (t, d) :: classifiedBefore rest
  | (_, .ok none) :: rest => classifiedBefore rest
  | _ => []

end HeaderBindings.Argument
