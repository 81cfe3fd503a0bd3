import HeaderBindings.Binding.Register
import HeaderBindings.Constant.Extraction
import HeaderBindings.Constant.Table
import HeaderBindings.Files.Tree
import HeaderBindings.Header.Reading

/-!
# Runs

A run takes headers in order. Of each it first adds the constants to the table and then the bindings
to the register; a declaration that cannot be bound is skipped. A header that is not there or cannot
be read, an expander that fails while constants are required, a preprocessor that cannot be started
or used, and expansions that do not match their names end the run; so does a collision that cannot
be reported since the value that stays has no text. What was gathered before stays in the context.
-/
namespace HeaderBindings.Binding

open Argument (Rejection)
open Constant (ExtractionError Table Value)
open Header (Declaration)
open Log (Event)
open Preprocessor (Expander Invocation)

structure Context where
  table : Table
  register : Register
  statistics : Statistics
  log : List Event

namespace Context

def empty : Context := ⟨.empty, .empty, .zero, []⟩

def report (c : Context) (events : List Event) : Context := { c with log := c.log ++ events }

/-- The preprocessor runs that were started. -/
def invocations (c : Context) : List Invocation := c.log.filterMap Event.invocation?

end Context

inductive Failure
  | headerMissing (path : Text)
  | headerUnreadable (path : Text) (problem : Files.Problem)
  | unreachable (cause : Files.Failure)
  | preprocessor (cause : Preprocessor.Failure)
  | countMismatch (header : Text) (expected found : Nat)
  | exhausted (cause : Constant.Exhaustion)
  | misuse (cause : Misuse)
  | unwritable
  | processUnstarted (message : Text)
  | processUnusable (message : Text)
deriving DecidableEq, Repr

def Failure.message : Failure → Text
  | .headerMissing path => "Header not found: ".toList ++ path
  | .headerUnreadable path problem =>
    "Failed to read ".toList ++ path ++ ": ".toList ++
      (Files.Failure.message ⟨problem, some path⟩).toList
  | .unreachable cause => cause.message.toList
  | .preprocessor cause => cause.message
  | .countMismatch header expected found =>
    Constant.countMismatchMessage header expected found
  | .exhausted _ => []
  | .misuse _ => []
  | .unwritable => Text.unwritableMessage.toList
  | .processUnstarted message => message
  | .processUnusable message => message

/-- How far a run has come, and why it has ended early. -/
structure Progress where
  context : Context
  failure : Option Failure

/-- Takes steps until one fails. -/
def Progress.steps {α : Type} (step : Context → α → Progress) : Context → List α → Progress
  | c, [] => ⟨c, none⟩
  | c, a :: as =>
    match step c a with
    | ⟨c, none⟩ => Progress.steps step c as
    | p => p

/-- What is reported of a constant whose name a table knows already. -/
def keptEvent (t : Table) (d : Constant.Definition) : Option Event :=
  (t.find? d.name).map fun first =>
    .constantKept d.name d.source first.source first.value

/-- Everything that a run is set up with. -/
structure Generator where
  exportMark : Datum
  rules : Rules
  expander : Expander
  constantsRequired : Bool
  tableName : Datum

namespace Generator

/-- Adds the definitions of a header up to a collision that cannot be reported. -/
def addDefinitions (definitions : List Constant.Definition) (c : Context) : Progress :=
  let (reported, rest) := definitions.span c.table.yieldsReadably
  let taken := reported ++ rest.head?.toList
  let c := { c.report (reported.filterMap (keptEvent c.table)) with
    table := (c.table.merge taken).1 }
  ⟨c, if rest.isEmpty then none else some .unwritable⟩

/-- Adds the constants of a header. -/
def addConstants (g : Generator) (header text : Text) (c : Context) : Progress :=
  let extraction := Constant.extract g.expander header text
  let c := c.report extraction.events
  match extraction.result with
  | .ok pairs =>
    addDefinitions (Table.definitionsOf header pairs) c
  | .error (.expansion (.misuse cause)) => ⟨c, some (.misuse cause)⟩
  | .error (.expansion .nulInPath) => ⟨c, some (.unreachable ⟨.nul, none⟩)⟩
  | .error (.expansion (.unstarted message)) => ⟨c, some (.processUnstarted message)⟩
  | .error (.expansion (.unusable message)) => ⟨c, some (.processUnusable message)⟩
  | .error (.exhausted cause) => ⟨c, some (.exhausted cause)⟩
  | .error (.countMismatch header expected found) =>
    ⟨c, some (.countMismatch header expected found)⟩
  | .error (.expansion (.failed failure)) =>
    if g.constantsRequired then ⟨c, some (.preprocessor failure)⟩
    else
      let errors := if failure.errors = [] then [] else [Event.preprocessorErrors failure.errors]
      ⟨c.report (.constantsSkipped header failure :: errors), none⟩

/-- Enters a binding in the register and counts it. -/
def enter (f : BoundFunction) (c : Context) : Context :=
  match c.register.add f with
  | (register, none) =>
    { c.report [.bindingRegistered f.name f.parameters] with
      register := register
      statistics := { c.statistics with registered := c.statistics.registered + 1 } }
  | (_, some first) =>
    { c.report [Register.duplicateEvent f first] with
      statistics := { c.statistics with duplicates := c.statistics.duplicates + 1 } }

/-- Counts a declaration that cannot be bound. -/
def skip (source : Text) (d : Declaration) (cause : Rejection) (c : Context) : Context :=
  { c.report [.declarationSkipped d.name ⟨source, d.line⟩ cause] with
    statistics := { c.statistics with skipped := c.statistics.skipped + 1 } }

/-- Takes one declaration. One without the prefix of the library does not count. -/
def addDeclaration (g : Generator) (source : Text) (c : Context) (d : Declaration) : Progress :=
  match g.rules.shortName d.name with
  | .error (.misuse cause) => ⟨c, some (.misuse cause)⟩
  | .error (.rejected ⟨.foreignName p, _⟩) =>
    ⟨c.report [.foreignDeclaration d.name d.line p], none⟩
  | _ =>
    let bound := g.rules.bind source d
    let c := { c.report bound.events with
      statistics := { c.statistics with declarations := c.statistics.declarations + 1 } }
    match bound.result with
    | .ok f => ⟨enter f c, none⟩
    | .error (.rejected cause) => ⟨skip source d cause c, none⟩
    | .error (.misuse cause) => ⟨c, some (.misuse cause)⟩

/-- Adds the bindings of a header. A mark that is found nowhere leaves it without declarations. -/
def addBindings (g : Generator) (header text : Text) (c : Context) : Progress :=
  match g.exportMark.mark? with
  | some mark => Progress.steps (g.addDeclaration header) c (Header.declarations mark text)
  | none => ⟨c, if g.exportMark.isMark then none else some (.misuse .wrongKind)⟩

/-- The bytes of a header. -/
def headerBytes (tree : Files.Tree) (path : Text) : Except Failure Text.Bytes :=
  match tree.look path with
  | .error cause => .error (.unreachable cause)
  | .ok none => .error (.headerMissing path)
  | .ok (some bytes) =>
    match tree.unreadable? path with
    | some problem => .error (.headerUnreadable path problem)
    | none => .ok bytes

/-- Takes one header. -/
def addHeader (g : Generator) (tree : Files.Tree) (c : Context) (header : Text) : Progress :=
  let c := c.report [.headerStarted header]
  let path := (Files.Path.ofText header).write
  match headerBytes tree path with
  | .error failure => ⟨c, some failure⟩
  | .ok bytes =>
    let text := Header.ofBytes bytes
    let c := { c.report [.headerRead path (Header.decode bytes).length] with
      statistics := { c.statistics with headers := c.statistics.headers + 1 } }
    match g.addConstants header text c with
    | ⟨c, none⟩ => g.addBindings header text c
    | p => p

end Generator

/-- The constants that a run exports under one name. -/
structure ExportedTable where
  name : Datum
  entries : List (Text × Value)
deriving Repr

/-- What a run yields. -/
structure Result where
  bindings : List BoundFunction
  constants : List (Text × Value)
  statistics : Statistics
  exported : Option ExportedTable
deriving Repr

structure Ended where
  log : List Event
  result : Except Failure Result

namespace Generator

/-- The result of a run that has taken all its headers. -/
def finish (g : Generator) (c : Context) : Ended :=
  let statistics := { c.statistics with
    constants := c.table.size, collisions := c.table.collisions.length }
  ⟨(c.report [.runFinished statistics]).log, .ok {
    bindings := c.register.functions
    constants := c.table.entries
    statistics := statistics
    exported := if c.table.size = 0 then none else some ⟨g.tableName, c.table.entries⟩ }⟩

def run (g : Generator) (tree : Files.Tree) (headers : List Text) : Ended :=
  match Progress.steps (g.addHeader tree) .empty headers with
  | ⟨c, none⟩ => g.finish c
  | ⟨c, some failure⟩ => ⟨c.log, .error failure⟩

/-- A run with an expander for each header that may depend on the preprocessor runs before. -/
def runWith (g : Generator) (expanders : List Invocation → Expander) (tree : Files.Tree)
    (headers : List Text) : Ended :=
  let addHeader (c : Context) (header : Text) : Progress :=
    { g with expander := expanders c.invocations }.addHeader tree c header
  match Progress.steps addHeader .empty headers with
  | ⟨c, none⟩ => g.finish c
  | ⟨c, some failure⟩ => ⟨c.log, .error failure⟩

end Generator
end HeaderBindings.Binding
