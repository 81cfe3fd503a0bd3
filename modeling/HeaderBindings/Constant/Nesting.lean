import HeaderBindings.Constant.Node
import HeaderBindings.Constant.Source

/-!
# Limits on nesting

A text may be nested so deeply that its reader runs out of room: every open bracket counts for the
levels of the grammar from an expression down to an atom, and every sign, power, negation and
function expression in front of an operand for one or two. An expression that was read may still
stand too deep for the calls that copy or evaluate it.
-/
namespace HeaderBindings.Constant

/-- What runs out. -/
inductive Exhaustion
  | memory | calls
deriving DecidableEq, Repr

/-- The levels between an open bracket, or the beginning, and the place that is read. Signs and
powers last to the end of their operand, negations to the end of theirs, and function expressions
and alternatives to the next comma. -/
structure Levels where
  outer : Nat
  kept : Nat
  negations : Nat
  signs : Nat
deriving DecidableEq, Repr

namespace Levels

def start : Levels := ⟨0, 0, 0, 0⟩

def total (l : Levels) : Nat := l.outer + l.kept + l.negations + l.signs

/-- The levels after an opening bracket. -/
def inside (l : Levels) (weight : Nat) : Levels := ⟨l.total + weight, 0, 0, 0⟩

def endOperand (l : Levels) : Levels := { l with signs := 0 }

def endNegation (l : Levels) : Levels := { l with signs := 0, negations := 0 }

def endItem (l : Levels) : Levels := ⟨l.outer, 0, 0, 0⟩

end Levels

/-- How far a text is nested: where it is now, the open brackets, and the deepest place so far. -/
structure Nesting where
  here : Levels
  brackets : List Levels
  deepest : Nat
  afterOperand : Bool
deriving Repr

namespace Nesting

def start : Nesting := ⟨.start, [], 0, false⟩

def move (n : Nesting) (l : Levels) (afterOperand : Bool) : Nesting :=
  ⟨l, n.brackets, max n.deepest l.total, afterOperand⟩

/-- The levels of a bracket. A bracket after an operand is a call or a subscript. -/
def weight (s : Symbol) (afterOperand : Bool) : Nat :=
  if s = .openBrace then 29
  else if afterOperand then 24
  else if s = .openParen then 28
  else 29

def addSymbol (n : Nesting) (s : Symbol) : Nesting :=
  match s with
  | .openParen | .openBracket | .openBrace =>
    let inner := n.here.inside (weight s n.afterOperand)
    ⟨inner, n.here :: n.brackets, max n.deepest inner.total, false⟩
  | .closeParen | .closeBracket | .closeBrace =>
    match n.brackets with
    | [] => n.move .start true
    | l :: ls => ⟨l, ls, n.deepest, true⟩
  | .comma => n.move n.here.endItem false
  | .colon | .semicolon | .assign | .walrus => n.move n.here.endNegation false
  | .dot => n.move n.here n.afterOperand
  | .ellipsis => n.move n.here true
  | .doubleStar => n.move { n.here with signs := n.here.signs + 2 } false
  | .plus | .minus | .tilde =>
    if n.afterOperand then n.move n.here.endOperand false
    else n.move { n.here with signs := n.here.signs + 1 } false
  | _ => n.move n.here.endOperand false

def addWord (n : Nesting) (w : Text) : Nesting :=
  let here := n.here
  if w = "not".toList then
    if n.afterOperand then n.move here.endOperand false
    else n.move { here with negations := here.negations + 1 } false
  else if w = "lambda".toList then n.move { here with kept := here.kept + 2 } false
  else if w = "else".toList then
    n.move { here.endNegation with kept := here.kept + 1 } false
  else if ["and", "or", "if"].any (·.toList = w) then n.move here.endNegation false
  else if ["in", "is"].any (·.toList = w) then n.move here.endOperand false
  else if ["for", "async"].any (·.toList = w) then n.move here.endItem false
  else if w = "await".toList then n.move here false
  else n.move here true

def add (n : Nesting) : Token → Nesting
  | .symbol s => n.addSymbol s
  | .word w => n.addWord w
  | _ => n.move n.here true

/-- The deepest place in a text. -/
def depth (ts : List Token) : Nat := (ts.foldl add start).deepest

/-- At so many levels the reader of a text has no room left. -/
def limit : Nat := 5976

end Nesting

namespace Node

/-- Expressions may stand so deep inside one another. -/
def maxDepth : Nat := 2980

/-- Evaluation goes so deep. -/
def maxReach : Nat := 990

def isTooDeep (n : Node) : Bool :=
  n.depth > maxDepth || (n.depth > maxReach && n.expr.reach > maxReach)

end Node

end HeaderBindings.Constant
