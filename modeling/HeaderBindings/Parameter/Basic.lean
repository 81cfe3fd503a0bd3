import HeaderBindings.NativeType.Basic
import HeaderBindings.Text.Numeral

/-!
# Parameters

A parameter of a binding has a name, a direction, an element type and axes. A declaration string
lists parameters such as `int [io] counts(counts0,counts1)`: an explicit element type, a marker for
every direction but input, and the name with its axes in parentheses.
-/
namespace HeaderBindings

open NativeType (Element)

inductive Role
  | input | output | inout
deriving DecidableEq, Repr

namespace Role

def label : Role → String
  | .input => "input"
  | .output => "output"
  | .inout => "inout"

def marker : Role → String
  | .input => ""
  | .output => "[o]"
  | .inout => "[io]"

def ofMarker? (t : Text) : Option Role := [input, output, inout].find? (·.marker.toList = t)

/-- What is said of a text that marks no role. -/
def unknownMarker (t : Text) : String := s!"Unknown role marker: {String.ofList (Text.quoted t)}"

end Role

/-- An axis has a name or a fixed size. -/
inductive Axis
  | named (t : Text)
  | size (n : Int)
deriving DecidableEq, Repr

def Axis.write : Axis → Text
  | .named t => t
  | .size n => Text.ofInt n

def Axis.isWritable : Axis → Bool
  | .named _ => true
  | .size n => Text.isWritable n

/-- Axes as they stand between parentheses. -/
def writeAxes (axes : List Axis) : Text := Text.join [','] (axes.map Axis.write)

structure Parameter where
  name : Text
  role : Role
  element : Element
  axes : List Axis
deriving DecidableEq, Repr

namespace Parameter

/-- The words in front of the name. -/
def leadingWords (p : Parameter) : List Text :=
  (if p.element.isExplicit then [p.element.label.toList] else []) ++
    (if p.role = .input then [] else [p.role.marker.toList])

def write (p : Parameter) : Text :=
  Text.join [' '] (p.leadingWords ++ [p.name ++ '(' :: writeAxes p.axes ++ [')']])

def writeAll (ps : List Parameter) : Text := Text.join [';', ' '] (ps.map write)

end Parameter
end HeaderBindings
