import HeaderBindings.Argument.Rejection
import HeaderBindings.Text.Blank
import HeaderBindings.Text.Word

/-!
# The tokens of an argument

An argument is an optional `const`, a base type, stars, another optional `const`, a name, and
trailing text; a return type has no name. Every square bracket that opens in the trailing text adds
one level of indirection, and there may be one level at most.
-/
namespace HeaderBindings.Argument

open Text

structure Tokens where
  text : Text
  baseType : Text
  pointerDepth : Nat
  isConst : Bool
  name : Option Text
  qualifiers : Text
deriving DecidableEq, Repr

namespace Tokens

/-- What follows the word `const` and blanks. -/
def dropConst? (t : Text) : Option Text := do
  let r ← dropPrefix? "const".toList t
  if atWord r then none else some (skipBlanks r)

/-- The stars at the start of a text, with blanks between and after them, and what follows. -/
def readStars : Text → Nat × Text
  | [] => (0, [])
  | c :: r =>
    if c = '*' then ((readStars r).1 + 1, (readStars r).2)
    else if isBlank c then readStars r
    else (0, c :: r)

/-- Name and trailing text of an argument. -/
def readName (isReturn : Bool) (whole rest : Text) : Except Rejection (Option Text × Text) :=
  if isReturn then .ok (none, rest)
  else match readName? rest with
    | some (name, q) => .ok (some name, trim q)
    | none => .error ⟨.noName, whole⟩

def read (isReturn : Bool) (t : Text) : Except Rejection Tokens :=
  let s := trim t
  let isConst := (dropConst? s).isSome
  match readName? ((dropConst? s).getD s) with
  | none => .error ⟨.noType, t⟩
  | some (baseType, r) => do
    let (stars, r) := readStars r
    let rest := trim r
    let (name, qualifiers) ← readName isReturn t ((dropConst? rest).getD rest)
    let depth := stars + qualifiers.count '['
    if depth > 1 then .error ⟨.doubleIndirection, t⟩
    else .ok ⟨t, baseType, depth, isConst, name, qualifiers⟩

end Tokens
end HeaderBindings.Argument
