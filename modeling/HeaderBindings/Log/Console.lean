import HeaderBindings.Log.Event
import HeaderBindings.Log.Format

/-!
# The console

The console prints every record at or above its level as one line. Its format is set once, with its
first configuration; its level is set each time. Before that it prints bare messages from warnings
on.
-/
namespace HeaderBindings.Log

structure Record where
  level : Level
  channel : Text
  message : Text
deriving DecidableEq, Repr

def Event.record (e : Event) : Record := ⟨e.level, e.channel.toList, e.message⟩

/-- The fields of a record. No record has arguments or a failure to show. -/
def Record.fields (r : Record) : List (String × FieldValue) := [
  ("levelname", .text r.level.label.toList),
  ("levelno", .number r.level.severity),
  ("name", .text r.channel),
  ("message", .text r.message),
  ("msg", .text r.message),
  ("args", .constant "()".toList),
  ("exc_info", .constant "None".toList),
  ("exc_text", .constant "None".toList),
  ("stack_info", .constant "None".toList),
  ("processName", .text "MainProcess".toList),
  ("threadName", .text "MainThread".toList)]

/-- The value of a field in a line. -/
def Record.value? (r : Record) (key : Text) : Option FieldValue :=
  (r.fields.find? fun f => f.1.toList = key).map (·.2)

/-- Verbose counts more than quiet. -/
def levelFor (verbose quiet : Bool) : Level :=
  if verbose then .debug else if quiet then .warning else .info

structure Console where
  level : Level
  format : Option Format
deriving DecidableEq, Repr

namespace Console

def initial : Console := ⟨.warning, none⟩

/-- The format of a text: the standard one if none is given, and bare messages for an empty one. -/
def formatOf : Option Text → Except Text Format
  | none => .ok .standard
  | some [] => .ok .bare
  | some t => if Format.hasField t then .ok (Format.read t) else .error t

/-- A format without fields is refused when it would be used. -/
def configure (c : Console) (level : Level) (format : Option Text) : Except Text Console :=
  match c.format with
  | some f => .ok ⟨level, some f⟩
  | none => (formatOf format).map fun f => ⟨level, some f⟩

/-- The line that is printed for a record, if any. -/
def line? (c : Console) (r : Record) : Option Text :=
  if r.level.severity < c.level.severity then none
  else match c.format with
    | some f => (f.write? r.value?).map (· ++ ['\n'])
    | none => if r.level.severity < Level.warning.severity then none else some (r.message ++ ['\n'])

def print (c : Console) (rs : List Record) : Text := (rs.filterMap c.line?).flatten

end Console
end HeaderBindings.Log
