import HeaderBindings.Datum.Json
import HeaderBindings.Datum.Yaml.Content
import HeaderBindings.Files.Tree
import HeaderBindings.Text.Lines

/-!
# Data files

A data file is YAML if its name ends in `.yml` or `.yaml`, in any case, and JSON otherwise. JSON is
read as it is defined. YAML is left to a reader that is given; an empty value that it returns stands
for an empty mapping.
-/
namespace HeaderBindings.Files

/-- How a reader fails: it refuses the document, it exhausts what it runs on, or it fails otherwise.
-/
inductive Severity
  | refused | exhausted | unexpected
deriving DecidableEq, Repr

inductive DataError
  | undecodable (cause : Text.Utf8.Broken)
  | json (text : Text) (failure : Datum.Json.Failure)
  | yaml (problem : Datum.Yaml.Problem)
  | reported (severity : Severity) (message : Text)
deriving DecidableEq, Repr

def DataError.severity : DataError → Severity
  | .json _ (.tooDeep _) => .exhausted
  | .yaml .tooDeep => .exhausted
  | .reported severity _ => severity
  | _ => .refused

def DataError.message : DataError → Text
  | .undecodable cause => cause.message
  | .json t failure => (failure.message t).toList
  | .yaml problem => problem.message.toList
  | .reported _ message => message

/-- A reader of YAML gives the value of the document in the bytes of a file. -/
abbrev YamlReader := Text.Bytes → Except DataError Datum

def endsWith (t ending : Text) : Bool := ending.reverse.isPrefixOf t.reverse

def isYaml (path : Text) : Bool :=
  [".yml", ".yaml"].any fun ending => endsWith (Text.lower path) ending.toList

/-- The text of a data file. -/
def textOfBytes (bytes : Text.Bytes) : Except DataError Text :=
  ((Text.Utf8.decode bytes).mapError .undecodable).map Text.unifyLineEnds

/-- The reader of YAML that is used unless another is given. -/
def YamlReader.standard : YamlReader := fun bytes => do
  let t ← textOfBytes bytes
  (Datum.Yaml.read t).mapError .yaml

/-- The datum in a file. -/
def dataOfBytes (yaml : YamlReader) (path : Text) (bytes : Text.Bytes) :
    Except DataError Datum := do
  if isYaml path then
    let d ← yaml bytes
    .ok (if d.isEmpty then .map [] else d)
  else
    let t ← textOfBytes bytes
    (Datum.Json.read t).mapError (.json t)

end HeaderBindings.Files
