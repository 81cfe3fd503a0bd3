import HeaderBindings.Log.Event
import HeaderBindings.Preprocessor.Segments

/-!
# Expanders

An expander gives the expansions of macro names in the context of a header. A preprocessor command
is one: its output is cut at the marker lines.
-/
namespace HeaderBindings.Preprocessor

open Files (Path)

inductive ExpansionError
  | failed (failure : Failure)
  | misuse (cause : Misuse)
  | nulInPath
  | unstarted (message : Text)
  | unusable (message : Text)
deriving DecidableEq, Repr

/-- What an expander answers, and the preprocessor runs that it started. -/
structure Expansion where
  started : List Invocation
  result : Except ExpansionError (List Text)

/-- What is reported of an expansion. -/
def Expansion.events (e : Expansion) : List Log.Event := e.started.map .preprocessorStarted

abbrev Expander := Text → List Text → Expansion

/-- The expansions in the output of a run, which the given function cuts. -/
def expansionsOf (program header : Text) (cut : Text → List Text) :
    Outcome → Except ExpansionError (List Text)
  | .notFound => .error (.failed ⟨.notFound program, header, []⟩)
  | .unstarted message => .error (.unstarted message)
  | .unusable message => .error (.unusable message)
  | .exited status output errors =>
    if status ≠ 0 then .error (.failed ⟨.exited status, header, errors⟩) else .ok (cut output)

/-- Starts a process for the names of a header, unless there are none. A header whose path cannot be
resolved is not expanded. -/
def expanderOf (invocation : Text → List Text → Invocation)
    (result : Text → Outcome → Except ExpansionError (List Text))
    (process : Invocation → Outcome) : Expander :=
  fun header names =>
    if names = [] then ⟨[], .ok []⟩
    else if header.contains '\x00' then ⟨[], .error .nulInPath⟩
    else ⟨[invocation header names], result header (process (invocation header names))⟩

namespace Command

def program (c : Command) : Text := WideText.shown (c.words.headD [])

def resultOf (c : Command) (header : Text) : Outcome → Except ExpansionError (List Text) :=
  expansionsOf c.program header (segments c.marker)

def expander (c : Command) (cwd : Path) (process : Invocation → Outcome) : Expander :=
  expanderOf (c.invocation cwd) c.resultOf process

/-- The expander of a command with a marker that is no text: no line of an output is one. -/
def wideExpander (c : Command) (marker : WideText) (cwd : Path) (process : Invocation → Outcome) :
    Expander :=
  expanderOf (fun header names => ⟨c.arguments cwd header, wideUnit cwd header names marker⟩)
    (fun header => expansionsOf c.program header fun _ => []) process

end Command
end HeaderBindings.Preprocessor
