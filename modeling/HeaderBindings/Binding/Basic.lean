import HeaderBindings.Call.Code
import HeaderBindings.Header.Declaration
import HeaderBindings.Log.Event

/-!
# Bindings

A binding offers one native function under its name without the prefix of the library. It holds the
declaration string of its parameters, the code that calls the function, and a line of documentation.
-/
namespace HeaderBindings.Binding

open Argument (Descriptor Refusal)
open Call (Instantiation Plan)
open Header (Declaration)
open Log (Event Place)

/-- A bound function. -/
structure BoundFunction where
  name : Text
  nativeName : Text
  arguments : List Descriptor
  parameters : Text
  instantiations : List Instantiation
  plan : Plan
  place : Place
deriving Repr

namespace BoundFunction

def code (f : BoundFunction) : Text := f.plan.code f.instantiations

/-- Whether the first parameter is the result. -/
def hasReturn (f : BoundFunction) : Bool := f.arguments.head?.any (·.isReturn)

end BoundFunction

/-- The documentation of a function. -/
def documentation (nativeName parameters : Text) : Text :=
  "Wrapper around the OpenCV function ".toList ++ nativeName ++ "().".toList ++
    if parameters = [] then [] else "\n\nSignature: (".toList ++ parameters ++ [')']

def BoundFunction.doc (f : BoundFunction) : Text := documentation f.nativeName f.parameters

/-- How declarations become bindings. The name of a result may be an integer without a text. -/
structure Rules where
  libraryPrefix : Datum
  returnName : Text
  isReturnNameWritable : Bool
  types : NativeType.Registry
  instantiations : List Instantiation

/-- The outcome for one declaration, with what is reported meanwhile. -/
structure Attempt where
  events : List Event
  result : Except Refusal BoundFunction

namespace Rules

/-- The name without the prefix of the library. -/
def shortName (r : Rules) (name : Text) : Except Refusal Text :=
  match r.libraryPrefix with
  | .text p =>
    match Header.shortName? p name with
    | some short => .ok short
    | none => Argument.reject (.foreignName p) name
  | .broken b => Argument.reject (.foreignName b.points.shown) name
  | _ => .error (.misuse .wrongKind)

def classifiedEvent (p : Text × Descriptor) : Event :=
  .argumentClassified (Text.trim p.1) p.2.toParameter.write

/-- Whether a descriptor has a text: its name, if it is that of the result, and its sizes. -/
def canWrite (r : Rules) (p : Text × Descriptor) : Bool :=
  (!p.2.isReturn || r.isReturnNameWritable) && p.2.axes.all Axis.isWritable

/-- Classifies a declaration and plans its call. Each descriptor is reported in turn, and the first
that has no text ends that. -/
def bind (r : Rules) (source : Text) (d : Declaration) : Attempt :=
  match r.shortName d.name with
  | .error cause => ⟨[], .error cause⟩
  | .ok short =>
    let classified := Argument.classifiedBefore
      (Argument.outcomes r.types r.returnName d.returnType d.arguments)
    { events := (classified.takeWhile r.canWrite).map classifiedEvent
      result :=
        if classified.all r.canWrite then do
          let arguments ← Argument.classifyAll r.types r.returnName d.returnType d.arguments
          .ok {
            name := short
            nativeName := d.name
            arguments := arguments
            parameters := Descriptor.signature arguments
            instantiations := r.instantiations
            plan := Plan.ofDescriptors d.name arguments
            place := ⟨source, d.line⟩ }
        else .error (.misuse .noText) }

end Rules
end HeaderBindings.Binding
