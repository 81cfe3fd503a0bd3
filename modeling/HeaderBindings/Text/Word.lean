import HeaderBindings.Text.WordTable
import HeaderBindings.Text.Basic

/-!
# Words and names

A word character is a letter, a digit, another numeric character, or an underscore, in any script.
A name starts with an ASCII letter or an underscore and goes on with word characters.
-/
namespace HeaderBindings.Text

def isWord (c : Char) : Bool :=
  if c.toNat < 128 then c.isAlphanum || c == '_' else inRanges wordTable c.toNat

def isNameStart (c : Char) : Bool := c.isAlpha || c == '_'

/-- The name at the start of a text, as long as it can be, and what follows it. -/
def readName? : Text → Option (Text × Text)
  | [] => none
  | c :: r => if isNameStart c then some (c :: r.takeWhile isWord, r.dropWhile isWord) else none

/-- Whether a text is one name. -/
def isName (t : Text) : Bool :=
  match readName? t with
  | some (_, []) => true
  | _ => false

/-- Whether the text goes on with a word character. -/
def atWord : Text → Bool
  | [] => false
  | c :: _ => isWord c

theorem readName?_append {t name rest : Text} (h : readName? t = some (name, rest)) :
    t = name ++ rest := by
  cases t with
  | nil => simp [readName?] at h
  | cons c r =>
    by_cases hc : isNameStart c
    · simp only [readName?, hc, if_true, Option.some.injEq, Prod.mk.injEq] at h
      simp [← h.1, ← h.2]
    · simp [readName?, hc] at h

end HeaderBindings.Text
