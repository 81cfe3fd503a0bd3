import HeaderBindings.Binding.Run
import HeaderBindings.PerlModule.Quote

/-!
# Perl modules

A module is written as sections with an empty line between two of them: a comment, the includes of
its headers, the table of constants in a here-document, one definition for each binding, and a last
line. Without headers or constants their section is left out.
-/
namespace HeaderBindings.PerlModule

open Binding (BoundFunction ExportedTable)
open Constant (Value)

def commentSection (moduleName : Text) (headers : List Text) : Text :=
  "# ".toList ++ moduleName ++ " bindings generated by cvbindgen. Do not edit.\n".toList ++
    "# Sources: ".toList ++ Text.join [',', ' '] headers

/-- The includes of some header names. -/
def headerSection (headers : List Text) : Text :=
  let includes := '\n' :: headers.flatMap fun h => "#include \"".toList ++ h ++ ['"', '\n']
  "pp_addhdr(".toList ++ quote includes ++ ");".toList

def constantLine (e : Text × Value) : Text :=
  "    ".toList ++ e.1 ++ " => ".toList ++ e.2.write ++ [',']

/-- Whether all constants have a text. -/
def areWritable (entries : List (Text × Value)) : Bool := entries.all fun e => e.2.isWritable

def constantSection (tableName : Text) (entries : List (Text × Value)) : Text :=
  Text.join ['\n'] <|
    ["pp_addpm(<<'EOPM');".toList, "our %".toList ++ tableName ++ " = (".toList] ++
    entries.map constantLine ++
    [");".toList, "EOPM".toList, "pp_add_exported('', '%".toList ++ tableName ++ "');".toList]

def bindingSection (f : BoundFunction) : Text :=
  Text.join ['\n'] [
    "pp_def('".toList ++ f.name ++ "',".toList,
    "    Pars => ".toList ++ quote f.parameters ++ [','],
    "    GenericTypes => [qw(".toList ++
      Text.join [' '] (f.instantiations.map fun i => [i.letter]) ++ ")],".toList,
    "    Code => ".toList ++ quote ('\n' :: f.code ++ ['\n']) ++ [','],
    "    Doc => ".toList ++ quote f.doc ++ [','],
    ");".toList]

def lastSection : Text := "pp_done();".toList

/-- What a module is made of; headers are given by the last part of their path. -/
structure Document where
  moduleName : Text
  headers : List Text
  table : Option (Text × List (Text × Value))
  bindings : List BoundFunction

def baseName (header : Text) : Text := (Files.Path.ofText header).name

def defaultModuleName : Text := "PDL::OpenCV".toList

/-- Whether everything that a document shows of a result has a text. -/
def canShow (r : Binding.Result) (moduleName : Datum) : Bool :=
  moduleName.isWritable && r.exported.all fun t => t.name.isWritable && areWritable t.entries

/-- Whether everything that a document shows can be encoded: the names that it takes from elsewhere
than from headers have no surrogates. -/
def canEncode (r : Binding.Result) (moduleName returnName : Datum) : Bool :=
  !moduleName.isBroken && r.exported.all (!·.name.isBroken) &&
    (!returnName.isBroken || r.bindings.all (!·.hasReturn))

namespace Document

/-- The document of a result. An empty module name stands for the default one. -/
def ofResult (r : Binding.Result) (headers : List Text) (moduleName : Datum) : Document where
  moduleName := if moduleName.isEmpty then defaultModuleName else moduleName.toText
  headers := headers.map baseName
  table := r.exported.map fun t => (t.name.toText, t.entries)
  bindings := r.bindings

def sections (d : Document) : List Text :=
  commentSection d.moduleName d.headers ::
    (if d.headers = [] then [] else [headerSection d.headers]) ++
    d.table.toList.map (fun t => constantSection t.1 t.2) ++
    d.bindings.map bindingSection ++ [lastSection]

def render (d : Document) : Text := Text.join ['\n', '\n'] d.sections ++ ['\n']

end Document
end HeaderBindings.PerlModule
