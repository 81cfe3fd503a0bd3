import HeaderBindings.NativeType.Basic
import HeaderBindings.Datum.Basic
import HeaderBindings.Text.Numeral

/-!
# The type registry

A registry knows matrix types, aliases and vectors besides the built-in types. A type name is
resolved through at most one alias and then looked up: matrix types first, then the built-in types,
then the vectors of the profiles in the order in which they were given. Profiles are data without a
fixed shape; of two aliases of one name the later holds, of two vectors of one name the earlier.
-/
namespace HeaderBindings

/-- A datum that an operation has no meaning for: it is of another kind, has no entries, or is a
number without a text. -/
inductive Misuse
  | wrongKind
  | noEntries
  | noText
deriving DecidableEq, Repr

namespace NativeType

/-- A vector of a profile. It has no name when its key is no string. -/
structure FixedVector where
  name : Option WideText
  element : Element
  length : Int
deriving DecidableEq, Repr

structure Registry where
  aliases : List (Datum × Datum)
  matrixTypes : List Datum
  vectors : List FixedVector
deriving Repr

inductive LookupError
  | unsupportedWidth (base bits : Text)
  | misuse (cause : Misuse)
deriving DecidableEq, Repr

def LookupError.message : LookupError → String
  | .unsupportedWidth base bits =>
    s!"{String.ofList base}: unsupported float width {String.ofList bits}"
  | .misuse _ => ""

def defaultMatrixTypes : List Text := ["CvMat".toList, "CvArr".toList]

/-! ### Built-in types -/

/-- A name such as `CvPoint3D32f`: the digit before the `D` and the digits after it. One line feed
may stand at the end. -/
def sizedName? (t : Text) : Option (Nat × Text) := do
  let r ← Text.dropPrefix? "Cv".toList t
  let r ← (Text.dropPrefix? "Point".toList r).orElse fun _ => Text.dropPrefix? "Size".toList r
  match r with
  | d :: 'D' :: r => do
    let length ← Text.digitValue? d
    let bits := r.takeWhile Text.isDecimal
    let rest := r.dropWhile Text.isDecimal
    if bits ≠ [] ∧ (rest = ['f'] ∨ rest = ['f', '\n']) then some (length, bits) else none
  | _ => none

/-- The shape of a built-in type that is no matrix. -/
def builtin? (t : Text) : Except LookupError (Option Shape) :=
  if t = "double".toList then .ok (some ⟨.scalar, .double, 1⟩)
  else if t = "float".toList then .ok (some ⟨.scalar, .float, 1⟩)
  else if t = "int".toList then .ok (some ⟨.scalar, .int, 1⟩)
  else if t = "CvPoint".toList ∨ t = "CvSize".toList then .ok (some ⟨.vector, .int, 2⟩)
  else match sizedName? t with
    | some (length, bits) =>
      if bits = "32".toList then .ok (some ⟨.vector, .float, length⟩)
      else if bits = "64".toList then .ok (some ⟨.vector, .double, length⟩)
      else .error (.unsupportedWidth t bits)
    | none =>
      if t = "CvScalar".toList then .ok (some ⟨.vector, .double, 4⟩)
      else if t = "void".toList then .ok (some ⟨.void, .native, 0⟩)
      else .ok none

def builtinRules : Nat := 6

namespace Registry

/-- The name that a type name stands for. -/
def resolve (r : Registry) (base : Text) : Datum :=
  (Datum.lookup? (.text base) r.aliases).getD (.text base)

def vector? (r : Registry) (name : WideText) : Option Shape :=
  (r.vectors.find? (·.name = some name)).map fun v => ⟨.vector, v.element, v.length⟩

def isMatrix (r : Registry) (d : Datum) : Bool := r.matrixTypes.any (·.key? = d.key?)

/-- The shape of a type name, or none if no rule knows it. -/
def find? (r : Registry) (base : Text) : Except LookupError (Option Shape) :=
  if r.isMatrix (r.resolve base) then .ok (some ⟨.matrix, .native, 0⟩)
  else match r.resolve base with
    | .text t => do
      match ← builtin? t with
      | some s => .ok (some s)
      | none => .ok (r.vector? (.ofText t))
    | .broken b => .ok (r.vector? b.points)
    | _ => .error (.misuse .wrongKind)

def rules (r : Registry) : Nat := builtinRules + r.vectors.length

end Registry

/-! ### Profiles -/

inductive ProfileError
  | misuse (cause : Misuse)
  | unknownElement (d : Datum)
  | badLength (cause : Text.NumeralError)
  | strangeLength (d : Datum)
  | lengthNotANumber
  | infiniteLength
  | badPair (index size : Nat)
deriving Repr

def ProfileError.message : ProfileError → String
  | .misuse _ => ""
  | .unknownElement d =>
    if d.isWritable then s!"{String.ofList d.write} is not a valid ElementType"
    else Text.unwritableMessage
  | .badLength cause => cause.message
  | .strangeLength d =>
    "invalid literal for int() with base 10: " ++ String.ofList (d.write.take 200)
  | .lengthNotANumber => "cannot convert float NaN to integer"
  | .infiniteLength => "cannot convert float infinity to integer"
  | .badPair index size =>
    s!"dictionary update sequence element #{index} has length {size}; 2 is required"

namespace Profile

/-- The members that iteration over a datum yields. -/
def members : Datum → Except ProfileError (List Datum)
  | .list items => .ok items
  | .text t => .ok (t.map fun c => .text [c])
  | .broken b => .ok (b.points.map fun c => .ofWide [c])
  | .map entries => .ok (entries.map (·.1))
  | .further _ items => .ok items
  | _ => .error (.misuse .wrongKind)

def isKey (d : Datum) : Bool := d.key?.isSome

/-- Adds a list of pairs, the first of which has the given index. -/
def updateFromPairs (aliases : List (Datum × Datum)) :
    Nat → List Datum → Except ProfileError (List (Datum × Datum))
  | _, [] => .ok aliases
  | index, d :: rest => do
    match ← members d with
    | [key, value] =>
      if isKey key then updateFromPairs (Datum.put key value aliases) (index + 1) rest
      else .error (.misuse .wrongKind)
    | other => .error (.badPair index other.length)

/-- Adds the aliases of a profile: a mapping, or a sequence of pairs. -/
def updateAliases (aliases : List (Datum × Datum)) :
    Datum → Except ProfileError (List (Datum × Datum))
  | .map entries => .ok (entries.foldl (fun as e => Datum.put e.1 e.2 as) aliases)
  | d => do updateFromPairs aliases 0 (← members d)

def addMatrixTypes (types : List Datum) (names : List Datum) : List Datum :=
  names.foldl (fun ts d => if ts.any (·.key? = d.key?) then ts else ts ++ [d]) types

/-- The integer part of a floating-point number. -/
def truncate (x : Float) : Except ProfileError Int :=
  if x.isNaN then .error .lengthNotANumber
  else if x.isInf then .error .infiniteLength
  else .ok (Decimal.integerPart x).1

def lengthOf : Datum → Except ProfileError Int
  | .int n => .ok n
  | .bool b => .ok (if b then 1 else 0)
  | .float x => truncate x
  | .text t => (Text.readInt? t).mapError .badLength
  | .broken b => .error (.strangeLength (.broken b))
  | .further f items =>
    match f.worth with
    | .number n => .ok n
    | .malformed => .error (.strangeLength (.further f items))
    | .nothing => .error (.misuse .wrongKind)
  | _ => .error (.misuse .wrongKind)

def elementOf (d : Datum) : Except ProfileError Element :=
  match d.text?.bind Element.ofLabel? with
  | some e => .ok e
  | none => .error (.unknownElement d)

/-- The entries of a mapping; nothing else has entries. -/
def entries : Datum → Except ProfileError (List (Datum × Datum))
  | .map es => .ok es
  | _ => .error (.misuse .noEntries)

def vectorOf (name d : Datum) : Except ProfileError FixedVector := do
  let es ← entries d
  let element ← elementOf ((Datum.field? "element" es).getD (.text "double".toList))
  let length ← lengthOf ((Datum.field? "length" es).getD (.int 1))
  .ok ⟨name.wide?, element, length⟩

/-- A registry with the content of a profile added. -/
def mergeInto (r : Registry) (profile : Datum) : Except ProfileError Registry := do
  let es ← entries profile
  let aliases ← updateAliases r.aliases ((Datum.field? "aliases" es).getD (.map []))
  let names ← members ((Datum.field? "matrix_types" es).getD (.list []))
  let vectors ← entries ((Datum.field? "vectors" es).getD (.map []))
  let vectors ← vectors.mapM fun e => vectorOf e.1 e.2
  .ok ⟨aliases, addMatrixTypes r.matrixTypes names, r.vectors ++ vectors⟩

end Profile

/-- The registry of some profiles on top of the given matrix types. -/
def Registry.ofProfiles (profiles : List Datum) (matrixTypes : List Datum) :
    Except ProfileError Registry := do
  let r ← profiles.foldlM Profile.mergeInto ⟨[], matrixTypes, []⟩
  if r.matrixTypes.all Profile.isKey then .ok r else .error (.misuse .wrongKind)

def Registry.standard : Registry := ⟨[], defaultMatrixTypes.map .text, []⟩

end NativeType
end HeaderBindings
