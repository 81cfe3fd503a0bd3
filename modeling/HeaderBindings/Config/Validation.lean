import HeaderBindings.Config.Basic

/-!
# Validating configurations

The list fields must hold lists, or nothing; the export mark, the prefix, the preprocessor command
and the matrix types must not be empty; and the element types must be letters of instantiations, at
least one of them. The first fault in this order is reported.
-/
namespace HeaderBindings.Config

open Call (Instantiation)

inductive Invalid
  | notAList (field : Field) (kind : String)
  | emptyExportMark
  | emptyPrefix
  | emptyCommand
  | noMatrixType
  | unknownInstantiations (found : List Datum)
  | noInstantiation
  | misuse (cause : Misuse)
  | unwritable
deriving Repr

def Invalid.message : Invalid → Text
  | .notAList field kind => (field.key ++ " must be a list, got " ++ kind).toList
  | .emptyExportMark => "export_macro must not be empty".toList
  | .emptyPrefix => "function_prefix must not be empty".toList
  | .emptyCommand => "preprocessor command must not be empty".toList
  | .noMatrixType => "matrix_types must name at least one type".toList
  | .unknownInstantiations found =>
    "Unknown generic types ".toList ++ (Datum.list found).write ++
      "; expected a subset of ".toList ++ (textList letters).write
  | .noInstantiation => "At least one generic type is required".toList
  | .misuse _ => []
  | .unwritable => Text.unwritableMessage.toList

/-- The instantiation that a datum names. -/
def instantiation? (d : Datum) : Option Instantiation := d.text?.bind Instantiation.ofLetter?

/-- The members of the field that lists the instantiations. -/
def genericMembers (c : Config) : Except Invalid (List Datum) :=
  match NativeType.Profile.members (c.get .genericTypes) with
  | .ok ds => if ds.all NativeType.Profile.isKey then .ok ds else .error (.misuse .wrongKind)
  | .error _ => .error (.misuse .wrongKind)

/-- The instantiations in the order in which they are listed. -/
def instantiations (c : Config) : Except Invalid (List Instantiation) := do
  let ds ← c.genericMembers
  let unknown := ds.filter fun d => (instantiation? d).isNone
  if unknown ≠ [] then
    .error (if (Datum.list unknown).isWritable then .unknownInstantiations unknown else .unwritable)
  else if ds.isEmpty then .error .noInstantiation
  else .ok (ds.filterMap instantiation?)

/-- The first list field that holds something other than a list. -/
def notAList? (c : Config) : Option Invalid :=
  Field.lists.findSome? fun f =>
    match c.get f with
    | .null => none
    | .list _ => none
    | d => some (.notAList f d.kindName)

def validate (c : Config) : Except Invalid Unit :=
  match c.notAList? with
  | some fault => .error fault
  | none =>
    if (c.get .exportMacro).isEmpty then .error .emptyExportMark
    else if (c.get .functionPrefix).isEmpty then .error .emptyPrefix
    else if (c.get .preprocessor).isEmpty then .error .emptyCommand
    else if (c.get .matrixTypes).isEmpty then .error .noMatrixType
    else c.instantiations.map fun _ => ()

end HeaderBindings.Config
