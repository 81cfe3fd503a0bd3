import HeaderBindings.Binding.Run
import HeaderBindings.Files.Outside
import HeaderBindings.Xml.Node

/-!
# Manifests

A manifest lists the bindings and the exported constants of a run as an XML document. What it says
is handed to a library value by value; most values are cleaned before. A value that the library does
not take and a number without a text end the writing, and what was written before stays.
-/
namespace HeaderBindings.Manifest

open Argument (Descriptor)
open Binding (BoundFunction ExportedTable)
open Constant (Value)
open NativeType (Element Kind)
open Xml (Attributes Node Part)

/-! ### What a manifest says -/

/-- What is said of an argument. A name that a configuration gives may be any datum. -/
structure ArgumentEntry where
  name : Datum
  type : WideText
  role : Role
  element : Element
  axes : List WideText
  kind : Kind
  isConst : Bool
  isReturn : Bool
deriving Repr

structure BindingEntry where
  name : WideText
  nativeName : WideText
  source : WideText
  line : Int
  parameters : WideText
  letters : List WideText
  arguments : List ArgumentEntry
  code : WideText
  doc : WideText
deriving Repr

structure TableEntry where
  name : Datum
  constants : List (WideText × Value)
deriving Repr

structure Contents where
  moduleName : Datum
  bindings : List BindingEntry
  table : Option TableEntry
deriving Repr

/-- The values that a manifest takes from the configuration. -/
structure Labels where
  moduleName : Datum
  returnName : Datum

def ArgumentEntry.ofDescriptor (labels : Labels) (d : Descriptor) : ArgumentEntry where
  name := if d.isReturn then labels.returnName else .text d.name
  type := .ofText d.type
  role := d.role
  element := d.element
  axes := d.axes.map fun a => .ofText a.write
  kind := d.kind
  isConst := d.isConst
  isReturn := d.isReturn

def BindingEntry.ofFunction (labels : Labels) (f : BoundFunction) : BindingEntry where
  name := .ofText f.name
  nativeName := .ofText f.nativeName
  source := .ofText f.place.source
  line := f.place.line
  parameters := .ofText f.parameters
  letters := f.instantiations.map fun i => .ofText [i.letter]
  arguments := f.arguments.map (.ofDescriptor labels)
  code := .ofText f.code
  doc := .ofText f.doc

def TableEntry.ofTable (t : ExportedTable) : TableEntry :=
  ⟨t.name, t.entries.map fun e => (.ofText e.1, e.2)⟩

def Contents.ofResult (labels : Labels) (r : Binding.Result) : Contents :=
  ⟨labels.moduleName, r.bindings.map (.ofFunction labels), r.exported.map .ofTable⟩

/-! ### The document -/

def version : Text := "1.0".toList

/-- A value of this library, which is handed over as it is. -/
def fixed (t : Text) : WideText := .ofText t

def whenTrue (name : Text) (b : Bool) : Attributes :=
  if b then [(name, fixed "true".toList)] else []

/-- Strings with a separator between two of them. -/
def joined (separator : Char) (ws : List WideText) : WideText :=
  ([CodePoint.char separator] : WideText).intercalate ws

def argumentNode (a : ArgumentEntry) : Node :=
  .single "argument".toList <|
    [("name".toList, Xml.ofDatum a.name),
      ("type".toList, Xml.clean a.type),
      ("role".toList, fixed a.role.label.toList),
      ("element".toList, fixed a.element.label.toList),
      ("dims".toList, joined ',' a.axes),
      ("kind".toList, fixed a.kind.label.toList)] ++
    whenTrue "const".toList a.isConst ++ whenTrue "return".toList a.isReturn

def bindingAttributes (b : BindingEntry) : Attributes :=
  [("name".toList, Xml.clean b.name), ("native".toList, Xml.clean b.nativeName),
    ("source".toList, Xml.clean b.source), ("line".toList, fixed (Text.ofInt b.line))]

def bindingNode (b : BindingEntry) : Node :=
  .group "binding".toList (bindingAttributes b) <|
    [.text "pars".toList (Xml.clean b.parameters),
      .text "generic-types".toList (joined ' ' b.letters)] ++
    b.arguments.map argumentNode ++
    [.plain "code".toList (Xml.clean b.code), .text "doc".toList (Xml.clean b.doc)]

def constantNode (e : WideText × Value) : Node :=
  .single "constant".toList
    [("name".toList, e.1), ("value".toList, Xml.clean (.ofText e.2.write)),
      ("type".toList, fixed (Constant.kindText e.2.isInt).toList)]

def tableNode (t : TableEntry) : Node :=
  .group "constants".toList [("table".toList, Xml.ofDatum t.name)] (t.constants.map constantNode)

def rootName : Text := "bindings".toList

def rootAttributes (m : Contents) : Attributes :=
  [("module".toList, Xml.ofDatum m.moduleName), ("version".toList, fixed version)]

def content (m : Contents) : List Node :=
  m.bindings.map bindingNode ++ m.table.toList.map tableNode

/-- The attribute values and texts of a manifest, in the order in which they are handed over. -/
def handed (m : Contents) : List WideText :=
  (rootAttributes m).map (·.2) ++ Node.valuesAll (content m)

/-- The value that ends the writing of a manifest, if there is one: the first that the library does
not take. -/
def refused? (takes : WideText → Bool) (m : Contents) : Option WideText :=
  (handed m).find? (!takes ·)

/-! ### Results with numbers without a text -/

/-- The contents that are handed over, and whether a number without a text cuts them short. -/
structure Feed where
  contents : Contents
  isCut : Bool
deriving Repr

/-- The result with its constants up to the first that has no text, and whether it was cut. -/
def writablePart (r : Binding.Result) : Binding.Result × Bool :=
  match r.exported with
  | none => (r, false)
  | some t =>
    if t.name.isWritable then
      let (before, rest) := t.entries.span fun e => e.2.isWritable
      ({ r with exported := some { t with entries := before } }, !rest.isEmpty)
    else ({ r with exported := none }, true)

def Feed.ofResult (labels : Labels) (r : Binding.Result) : Feed :=
  ⟨.ofResult labels (writablePart r).1, (writablePart r).2⟩

/-- A library puts a manifest in a file. -/
abbrev Writer := Feed → WideText → Files.Tree → Files.Stepped

/-! ### A writer -/

/-- The first line; the two forms spell the encoding in different cases. -/
def declarationLine (encoding : String) : Text :=
  "<?xml version='1.0' encoding='".toList ++ encoding.toList ++ "'?>\n".toList

/-- What is said of a value that is not legal. -/
def illegalMessage : String :=
  "All strings must be XML compatible: Unicode or ASCII, no NULL bytes or control characters"

/-- The compact form, with the root left open. -/
def openCompact (m : Contents) : Part :=
  let line := declarationLine "utf-8"
  if Xml.areLegal (rootAttributes m) then
    let body := Node.compactAll (content m)
    ⟨line ++ Xml.openTag rootName (rootAttributes m) ++ body.text, body.complete⟩
  else ⟨line, false⟩

/-- The compact form. When it is not complete, the root is not closed. -/
def compact (m : Contents) : Part :=
  let part := openCompact m
  if part.complete then ⟨part.text ++ Xml.closeTag rootName, true⟩ else part

/-- The indented form of a manifest without illegal values. -/
def indented (m : Contents) : Text :=
  declarationLine "UTF-8" ++ (Node.group rootName (rootAttributes m) (content m)).indented 0

/-- Why a manifest ends early. -/
inductive Obstacle
  | illegalText
  | unwritable
deriving DecidableEq, Repr

def Obstacle.message : Obstacle → String
  | .illegalText => illegalMessage
  | .unwritable => Text.unwritableMessage

/-- What is written of a manifest, and why it ends early if it does. -/
structure Written where
  text : Text
  obstacle : Option Obstacle
deriving DecidableEq, Repr

/-- A manifest in the asked form; an incomplete one stays compact. -/
def write (isIndented : Bool) (f : Feed) : Written :=
  let part := openCompact f.contents
  if !part.complete then ⟨part.text, some .illegalText⟩
  else if f.isCut then ⟨part.text, some .unwritable⟩
  else ⟨if isIndented then indented f.contents else (compact f.contents).text, none⟩

/-- The path of a manifest ends before its first null character. -/
def pathOf (path : WideText) : Text := path.shown.takeWhile (· ≠ '\x00')

/-- The writer that is used unless another is given. -/
def Writer.standard : Writer := fun feed path tree =>
  let written := write true feed
  match tree.write (pathOf path) (Text.Utf8.encode written.text) with
  | .error problem => ⟨tree, some (Files.Failure.fault ⟨problem, none⟩)⟩
  | .ok tree =>
    ⟨tree, if written.obstacle = some .illegalText then some (.other illegalMessage.toList)
      else none⟩

end HeaderBindings.Manifest
