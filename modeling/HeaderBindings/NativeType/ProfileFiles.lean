import HeaderBindings.Files.Data
import HeaderBindings.Files.Outside
import HeaderBindings.NativeType.Registry

/-!
# Profile files

Type profiles are data files. They are read in order, an empty path is passed over, and the first
that cannot be read is reported before any profile is used.
-/
namespace HeaderBindings.NativeType

inductive LoadError
  | missing (path : Text)
  | unreadable (cause : Files.Failure)
  | data (cause : Files.DataError)
  | profile (cause : ProfileError)
deriving Repr

def LoadError.message : LoadError → Text
  | .missing path => "Type profile file not found: ".toList ++ path
  | .unreadable cause => cause.message.toList
  | .data cause => cause.message
  | .profile cause => cause.message.toList

/-- The bytes of the file at a path, which may lead out of the tree. -/
def profileBytes? (outside : Files.Outside) (tree : Files.Tree) (path : WideText) :
    Option (Except Files.Problem Text.Bytes) :=
  match path.toText? with
  | none => outside.read? tree path
  | some t => (tree.read? t).map fun bytes =>
    match tree.unreadable? t with
    | some problem => .error problem
    | none => .ok bytes

/-- The profile in a file. -/
def readProfile (yaml : Files.YamlReader) (outside : Files.Outside) (tree : Files.Tree)
    (path : WideText) : Except LoadError Datum :=
  match profileBytes? outside tree path with
  | none => .error (.missing path.shown)
  | some (.error problem) => .error (.unreadable ⟨problem, some path.shown⟩)
  | some (.ok bytes) => (Files.dataOfBytes yaml path.shown bytes).mapError .data

def Registry.load (yaml : Files.YamlReader) (outside : Files.Outside) (tree : Files.Tree)
    (paths : List WideText) (matrixTypes : List Datum) : Except LoadError Registry := do
  let profiles ← (paths.filter (· ≠ [])).mapM (readProfile yaml outside tree)
  (Registry.ofProfiles profiles matrixTypes).mapError .profile

end HeaderBindings.NativeType
