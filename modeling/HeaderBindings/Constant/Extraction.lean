import HeaderBindings.Constant.Candidates
import HeaderBindings.Preprocessor.Expander

/-!
# Extracting constants

The candidates of a header are expanded together; each expansion belongs to the candidate at its
place, so there must be as many of them. The candidates whose expansion has a value are the
constants of the header. Without candidates nothing is expanded. An expansion that exhausts its
reader ends the extraction.
-/
namespace HeaderBindings.Constant

open Preprocessor (Expander ExpansionError)

inductive ExtractionError
  | expansion (cause : ExpansionError)
  | countMismatch (header : Text) (expected found : Nat)
  | exhausted (cause : Exhaustion)
deriving DecidableEq, Repr

/-- What is said of a header whose expansions do not match its candidates. -/
def countMismatchMessage (header : Text) (expected found : Nat) : Text :=
  header ++ ": expected ".toList ++ Text.ofNat expected ++
    " constant segments from preprocessor, got ".toList ++ Text.ofNat found

/-- What is reported of one expansion. -/
def Outcome.events : Outcome → List Log.Event
  | .failed expansion cause => [.expansionFailed expansion cause]
  | .notFinite expansion => [.expansionNotFinite expansion]
  | _ => []

/-- The names whose expansion has a value, with that value. -/
def constantsOf (names expansions : List Text) : List (Text × Value) :=
  (names.zip expansions).filterMap fun p => (literalValue? p.2).map fun v => (p.1, v)

structure Extraction where
  events : List Log.Event
  result : Except ExtractionError (List (Text × Value))

def extract (expander : Expander) (header text : Text) : Extraction :=
  match candidates text with
  | [] => ⟨[], .ok []⟩
  | names =>
    let expansion := expander header names
    match expansion.result with
    | .error cause => ⟨expansion.events, .error (.expansion cause)⟩
    | .ok expansions =>
      if expansions.length ≠ names.length then
        ⟨expansion.events, .error (.countMismatch header names.length expansions.length)⟩
      else
        let outcomes := expansions.map judge
        let events := expansion.events ++
          (outcomes.takeWhile (·.exhaustion?.isNone)).flatMap Outcome.events
        match outcomes.findSome? Outcome.exhaustion? with
        | some cause => ⟨events, .error (.exhausted cause)⟩
        | none =>
          let found := constantsOf names expansions
          ⟨events ++ [.constantsFound header found.length names.length], .ok found⟩

end HeaderBindings.Constant
