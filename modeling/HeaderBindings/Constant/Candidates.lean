import HeaderBindings.Text.Blank
import HeaderBindings.Text.Word

/-!
# Candidates for constants

A header is searched for macros with a value: at the start of a line `#`, `define`, a name, and
something that is not blank, with spaces before any of them and at least one before and after the
name. What is searched for is a pattern of single characters and of runs, each run as long as it can
be and shorter where the rest of the pattern would not match otherwise. The search goes on behind
what matches, and a name that was found before is passed over.
-/
namespace HeaderBindings.Constant

open Text

/-- A part of a pattern: one character, or a run of any length. What a captured part matches is
kept. -/
structure Part where
  test : Char → Bool
  isRun : Bool
  isCaptured : Bool

namespace Part

def one (test : Char → Bool) : Part := ⟨test, false, false⟩

def run (test : Char → Bool) : Part := ⟨test, true, false⟩

def captured (p : Part) : Part := { p with isCaptured := true }

/-- Adds a character to what is captured. -/
def keep (p : Part) (c : Char) (m : Text × Text) : Text × Text :=
  if p.isCaptured then (c :: m.1, m.2) else m

/-- Matches one character, and then the rest of the pattern. -/
def matchOne? (p : Part) (next : Text → Option (Text × Text)) : Text → Option (Text × Text)
  | [] => none
  | c :: r => if p.test c then (next r).map (p.keep c) else none

/-- Matches a run, and then the rest of the pattern; longer runs are tried first. -/
def matchRun? (p : Part) (next : Text → Option (Text × Text)) : Text → Option (Text × Text)
  | [] => next []
  | c :: r =>
    if p.test c then ((p.matchRun? next r).map (p.keep c)).or (next (c :: r)) else next (c :: r)

def matchThen? (p : Part) (next : Text → Option (Text × Text)) (t : Text) :
    Option (Text × Text) :=
  if p.isRun then p.matchRun? next t else p.matchOne? next t

end Part

/-- What a pattern captures at the start of a text, and what follows the match. -/
def matchAll? : List Part → Text → Option (Text × Text)
  | [], t => some ([], t)
  | p :: ps, t => p.matchThen? (matchAll? ps) t

def isSpace (c : Char) : Bool := c = ' '

/-- One space or more. -/
def spaces : List Part := [.one isSpace, .run isSpace]

/-- A macro with a value, up to the first character of the value. -/
def macroPattern : List Part :=
  [.run isSpace, .one (· = '#'), .run isSpace] ++ "define".toList.map (fun d => .one (· = d)) ++
    spaces ++ [(Part.one isNameStart).captured, (Part.run isWord).captured] ++ spaces ++
    [.one (!isBlank ·)]

/-- The names that are found in a text. The flag tells that a line starts here, and the number how
many characters still belong to the last match; names that were seen are passed over. -/
def findMacros (seen : List Text) (atStart : Bool) : Nat → Text → List Text
  | _, [] => []
  | inside + 1, c :: r => findMacros seen (c = '\n') inside r
  | 0, c :: r =>
    match if atStart then matchAll? macroPattern (c :: r) else none with
    | none => findMacros seen (c = '\n') 0 r
    | some (name, rest) =>
      let inside := r.length - rest.length
      if seen.contains name then findMacros seen (c = '\n') inside r
      else name :: findMacros (name :: seen) (c = '\n') inside r

/-- The candidates of a text, each at its first place. -/
def candidates (t : Text) : List Text := findMacros [] true 0 t

end HeaderBindings.Constant
