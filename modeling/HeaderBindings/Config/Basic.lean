import HeaderBindings.Call.Instantiation
import HeaderBindings.NativeType.Registry
import HeaderBindings.Preprocessor.Invocation

/-!
# Configurations

A configuration gives a datum for each of its fields. Any datum may stand in a field; what it has to
be is checked when the configuration is validated.
-/
namespace HeaderBindings

inductive Field
  | exportMacro | functionPrefix | matrixTypes | genericTypes | returnName | typesProfiles
  | preprocessor | includeDirs | constantMarker | strictConstants | constantsName | moduleName
  | outputPd | outputManifest
deriving DecidableEq, Repr

namespace Field

def all : List Field := [
  .exportMacro, .functionPrefix, .matrixTypes, .genericTypes, .returnName, .typesProfiles,
  .preprocessor, .includeDirs, .constantMarker, .strictConstants, .constantsName, .moduleName,
  .outputPd, .outputManifest]

def key : Field → String
  | .exportMacro => "export_macro"
  | .functionPrefix => "function_prefix"
  | .matrixTypes => "matrix_types"
  | .genericTypes => "generic_types"
  | .returnName => "return_name"
  | .typesProfiles => "types_profiles"
  | .preprocessor => "preprocessor"
  | .includeDirs => "include_dirs"
  | .constantMarker => "constant_marker"
  | .strictConstants => "strict_constants"
  | .constantsName => "constants_name"
  | .moduleName => "module_name"
  | .outputPd => "output_pd"
  | .outputManifest => "output_manifest"

/-- The name of a field as a key of a mapping. -/
def name (f : Field) : WideText := .ofText f.key.toList

def ofName? (w : WideText) : Option Field := all.find? (·.name = w)

/-- The fields that hold lists of texts, in the order in which they are checked. -/
def lists : List Field := [.preprocessor, .includeDirs, .matrixTypes, .genericTypes, .typesProfiles]

theorem ofName?_name (f : Field) : ofName? f.name = some f := by cases f <;> decide

end Field

structure Config where
  get : Field → Datum

namespace Config

def set (c : Config) (f : Field) (d : Datum) : Config := ⟨fun g => if g = f then d else c.get g⟩

@[simp] theorem get_set (c : Config) (f g : Field) (d : Datum) :
    (c.set f d).get g = if g = f then d else c.get g := rfl

def textList (ts : List Text) : Datum := .list (ts.map .text)

def stringList (ws : List WideText) : Datum := .list (ws.map .ofWide)

def letters : List Text := Call.Instantiation.all.map fun i => [i.letter]

def standard : Config where
  get
    | .exportMacro => .text "CVAPI".toList
    | .functionPrefix => .text "cv".toList
    | .matrixTypes => textList NativeType.defaultMatrixTypes
    | .genericTypes => textList letters
    | .returnName => .text "retval".toList
    | .typesProfiles => .null
    | .preprocessor => textList Preprocessor.defaultCommand
    | .includeDirs => textList []
    | .constantMarker => .text Preprocessor.defaultMarker
    | .strictConstants => .bool true
    | .constantsName => .text "OpenCV_constants".toList
    | .moduleName => .text "PDL::OpenCV".toList
    | .outputPd => .text "OpenCV.pd".toList
    | .outputManifest => .null

end Config
end HeaderBindings
