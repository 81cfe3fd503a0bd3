import HeaderBindings.Config.Basic
import HeaderBindings.Files.Data
import HeaderBindings.Text.ShellWords

/-!
# Loading configurations

Configuration data names fields and gives each a value. Unknown names are refused together before
anything is set; then the fields are set in order until a value is refused, and those set before
keep their new value. A preprocessor command may be given as one string, which is split into words.
-/
namespace HeaderBindings.Config

inductive LoadError
  | unknownKeys (keys : List WideText)
  | notTexts (field : Field) (found : Datum)
  | words (cause : Text.WordsError)
  | missing (path : Text)
  | unreadable (cause : Files.Failure)
  | notAMapping (path : Text) (kind : String)
  | data (cause : Files.DataError)
  | misuse (cause : Misuse)
  | unwritable
deriving Repr

def LoadError.message : LoadError → Text
  | .unknownKeys keys =>
    "Unknown configuration keys: ".toList ++ Text.join [',', ' '] (keys.map WideText.shown)
  | .notTexts field found =>
    (field.key ++ " must be a list of strings, got ").toList ++ found.write
  | .words cause => cause.message.toList
  | .missing path => "Configuration file not found: ".toList ++ path
  | .unreadable cause => cause.message.toList
  | .notAMapping path kind =>
    path ++ (": expected a mapping at top level, got " ++ kind).toList
  | .data cause => cause.message
  | .misuse _ => []
  | .unwritable => Text.unwritableMessage.toList

/-- The order of strings by their code points. -/
def precedes : WideText → WideText → Bool
  | [], _ => true
  | _ :: _, [] => false
  | a :: as, b :: bs => if a = b then precedes as bs else a.toNat < b.toNat

/-- A command given as one string becomes the list of its words. -/
def splitCommand (f : Field) (d : Datum) : Except LoadError Datum :=
  match f, d.wide? with
  | .preprocessor, some w => ((Text.wideWords w).map stringList).mapError .words
  | _, _ => .ok d

/-- The value that a field gets from a datum. -/
def coerce (f : Field) (d : Datum) : Except LoadError Datum := do
  let d ← splitCommand f d
  if !Field.lists.contains f || (f = .typesProfiles && d == .null) then .ok d
  else match d.strings? with
    | some _ => .ok d
    | none => .error (if d.isWritable then .notTexts f d else .unwritable)

/-- A configuration after data was applied to it, and why that ended early. -/
structure Applied where
  config : Config
  error : Option LoadError

/-- Sets fields in order until a value is refused. -/
def setAll (c : Config) : List (Field × Datum) → Applied
  | [] => ⟨c, none⟩
  | (f, d) :: rest =>
    match coerce f d with
    | .ok v => (c.set f v).setAll rest
    | .error e => ⟨c, some e⟩

def unknownKeys (data : List (WideText × Datum)) : List WideText :=
  ((data.map (·.1)).filter fun k => (Field.ofName? k).isNone).mergeSort precedes

def apply (c : Config) (data : List (WideText × Datum)) : Applied :=
  if unknownKeys data ≠ [] then ⟨c, some (.unknownKeys (unknownKeys data))⟩
  else c.setAll (data.filterMap fun e => (Field.ofName? e.1).map fun f => (f, e.2))

/-- The entries of a mapping as fields; every key has to be a string. -/
def fieldsOf (entries : List (Datum × Datum)) : Except LoadError (List (WideText × Datum)) :=
  entries.mapM fun e =>
    match e.1.wide? with
    | some w => .ok (w, e.2)
    | none => .error (.misuse .wrongKind)

/-- The data of a configuration file. -/
def readData (yaml : Files.YamlReader) (tree : Files.Tree) (path : Text) :
    Except LoadError (List (WideText × Datum)) :=
  match tree.read? path, tree.unreadable? path with
  | none, _ => .error (.missing path)
  | some _, some problem => .error (.unreadable ⟨problem, some path⟩)
  | some bytes, none => do
    match ← (Files.dataOfBytes yaml path bytes).mapError .data with
    | .map entries => fieldsOf entries
    | d => .error (.notAMapping path d.kindName)

def load (c : Config) (yaml : Files.YamlReader) (tree : Files.Tree) (path : Text) : Applied :=
  match readData yaml tree path with
  | .ok data => c.apply data
  | .error e => ⟨c, some e⟩

end HeaderBindings.Config
