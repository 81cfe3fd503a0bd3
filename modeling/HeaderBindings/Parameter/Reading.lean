import HeaderBindings.Parameter.Basic
import HeaderBindings.Text.Numeral
import HeaderBindings.Text.Word

/-!
# Reading declaration strings

A declaration string is cut at its semicolons, and empty pieces are dropped. In a piece, blanks
stand after the element type and may stand after the marker, none stand between the name and its
axes, and the axes hold no parenthesis. An axis of digits alone is a size.
-/
namespace HeaderBindings.Parameter

open NativeType (Element)
open Text

inductive ReadError
  | malformed (piece : Text)
  | size (cause : NumeralError)
deriving DecidableEq, Repr

def ReadError.message : ReadError → String
  | .malformed piece => s!"Malformed parameter declaration: {String.ofList (quoted piece)}"
  | .size cause => cause.message

/-- An explicit element type with blanks after it; without one the element type is native. -/
def readElement (t : Text) : Element × Text :=
  let found := [Element.int, .float, .double].findSome? fun e => do
    let r ← dropPrefix? e.label.toList t
    if r.head?.any isBlank then some (e, skipBlanks r) else none
  found.getD (.native, t)

/-- A marker with blanks allowed after it; without one the parameter is an input. -/
def readRole (t : Text) : Role × Text :=
  let found := [Role.output, .inout].findSome? fun role =>
    (dropPrefix? role.marker.toList t).map fun r => (role, skipBlanks r)
  found.getD (.input, t)

def readAxis (t : Text) : Except NumeralError Axis :=
  if t ≠ [] && t.all isDigitLike then (readInt? t).map .size else .ok (.named t)

/-- The axes between parentheses; blanks alone are no axes. -/
def readAxes (t : Text) : Except NumeralError (List Axis) :=
  let t := trim t
  if t = [] then .ok [] else ((splitOn ',' t).map trim).mapM readAxis

/-- What stands between a parenthesis and the one at the end, if there are no others. -/
def inParentheses? (t : Text) : Option Text := do
  let r ← dropPrefix? ['('] t
  let inner := r.takeWhile fun c => c ≠ '(' && c ≠ ')'
  if r = inner ++ [')'] then some inner else none

def read (piece : Text) : Except ReadError Parameter :=
  let (element, r) := readElement piece
  let (role, r) := readRole r
  match readName? r with
  | none => .error (.malformed piece)
  | some (name, r) =>
    match inParentheses? r with
    | none => .error (.malformed piece)
    | some inner => do
      let axes ← (readAxes inner).mapError .size
      .ok ⟨name, role, element, axes⟩

/-- The parameters of a declaration string; the first piece that cannot be read is reported. -/
def readAll (t : Text) : Except ReadError (List Parameter) :=
  (((splitOn ';' t).map trim).filter (· ≠ [])).mapM read

end HeaderBindings.Parameter
