import HeaderBindings.Argument.Rejection
import HeaderBindings.Text.Blank

/-!
# Splitting an argument list

An argument list is cut at the commas outside all brackets. Round and square brackets count alike;
a list is refused when some closing bracket has no opening one before it or some opening bracket is
left over. Empty pieces and pieces that are one group in parentheses are dropped, and a lone `void`
stands for no arguments.
-/
namespace HeaderBindings.Argument

def isOpener (c : Char) : Bool := c = '(' || c = '['

def isCloser (c : Char) : Bool := c = ')' || c = ']'

/-- The pieces of a text that starts inside so many brackets. -/
def pieces? : Nat → Text → Option (List Text)
  | depth, [] => if depth = 0 then some [[]] else none
  | depth, c :: r =>
    if isOpener c then (pieces? (depth + 1) r).map (Text.onto c)
    else if isCloser c then
      match depth with
      | 0 => none
      | depth + 1 => (pieces? depth r).map (Text.onto c)
    else if c = ',' && depth = 0 then (pieces? 0 r).map ([] :: ·)
    else (pieces? depth r).map (Text.onto c)

/-- Whether the parenthesis at the start of a text is closed by its last character. -/
def closesAtEnd : Nat → Text → Bool
  | _, [] => false
  | depth, c :: r =>
    if c = '(' then closesAtEnd (depth + 1) r
    else if c = ')' then if depth ≤ 1 then r.isEmpty else closesAtEnd (depth - 1) r
    else closesAtEnd depth r

/-- Whether a text is one group in parentheses. -/
def isGroup (t : Text) : Bool := t.head? = some '(' && closesAtEnd 0 t

/-- The arguments of an argument list, trimmed. -/
def split (t : Text) : Except Rejection (List Text) :=
  match pieces? 0 t with
  | none => .error ⟨.unbalanced, t⟩
  | some ps =>
    let arguments := (ps.map Text.trim).filter fun p => !p.isEmpty && !isGroup p
    .ok (if arguments = ["void".toList] then [] else arguments)

end HeaderBindings.Argument
