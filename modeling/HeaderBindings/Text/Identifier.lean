import HeaderBindings.Text.IdentifierStartTable
import HeaderBindings.Text.IdentifierContinueTable
import HeaderBindings.Text.Basic

/-!
# Identifiers of any script

An identifier starts with a letter-like character or an underscore and goes on with letters, marks,
digits and connectors, by the Unicode identifier properties.
-/
namespace HeaderBindings.Text

def startsIdentifier (c : Char) : Bool :=
  if c.toNat < 128 then c.isAlpha || c == '_' else inRanges identifierStartTable c.toNat

def continuesIdentifier (c : Char) : Bool :=
  startsIdentifier c || c.isDigit ||
    (c.toNat ≥ 128 && inRanges identifierContinueTable c.toNat)

/-- Characters that a scanner takes into an identifier before it checks the whole. -/
def mayBeIdentifier (c : Char) : Bool := c.isAlphanum || c == '_' || c.toNat ≥ 128

def isIdentifier : Text → Bool
  | [] => false
  | c :: r => startsIdentifier c && r.all continuesIdentifier

end HeaderBindings.Text
