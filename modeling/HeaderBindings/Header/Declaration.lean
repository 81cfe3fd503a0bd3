import HeaderBindings.Header.Source
import HeaderBindings.Text.Word

/-!
# Exported declarations

An exported function is declared as `MARK(type) name(arguments);` with blanks between any two
of these tokens. The type holds no parenthesis and no semicolon, the arguments hold no semicolon,
and the mark starts at a word boundary. Declarations are found from left to right and do not
overlap.
-/
namespace HeaderBindings.Header

open Text

structure Declaration where
  returnType : Text
  name : Text
  arguments : Text
  line : Nat
deriving DecidableEq, Repr

namespace Declaration

/-- What follows a character, with blanks allowed before it. -/
def after? (c : Char) (t : Text) : Option Text := dropPrefix? [c] (skipBlanks t)

def isTypeChar (c : Char) : Bool := c ≠ '(' && c ≠ ')' && c ≠ ';'

/-- What stands before a closing parenthesis and blanks at the end of a text. -/
def beforeClosing? (t : Text) : Option Text :=
  let t := dropRightWhile isBlank t
  if t.getLast? = some ')' then some t.dropLast else none

/-- The declaration at the start of a text, on the given line, and what follows it. -/
def read? (mark : Text) (line : Nat) (t : Text) : Option (Declaration × Text) := do
  let r ← dropPrefix? mark t
  let r ← after? '(' r
  let returnType := trim (r.takeWhile isTypeChar)
  let r ← dropPrefix? [')'] (r.dropWhile isTypeChar)
  let (name, r) ← readName? (skipBlanks r)
  let r ← after? '(' r
  let (body, rest) ← cutAt? ';' r
  let arguments ← beforeClosing? body
  some (⟨returnType, name, collapse arguments, line⟩, rest)

theorem length_after? {c : Char} {t r : Text} (h : after? c t = some r) : r.length < t.length := by
  have h₁ := congrArg List.length (dropPrefix?_eq_some_iff.1 h)
  have h₂ := length_skipBlanks_le t
  simp at h₁; omega

theorem length_read? {mark t rest : Text} {line : Nat} {d : Declaration}
    (h : read? mark line t = some (d, rest)) : rest.length < t.length := by
  simp only [read?, Option.bind_eq_bind, Option.bind_eq_some_iff, Option.some.injEq,
    Prod.mk.injEq] at h
  obtain ⟨r₁, h₁, r₂, h₂, r₃, h₃, ⟨name, r₄⟩, h₄, r₅, h₅, ⟨body, r₆⟩, h₆, _, _, _, rfl⟩ := h
  have e₁ := congrArg List.length (dropPrefix?_eq_some_iff.1 h₁)
  have e₂ := length_after? h₂
  have e₃ := congrArg List.length (dropPrefix?_eq_some_iff.1 h₃)
  have e₄ := congrArg List.length (readName?_append h₄)
  have e₅ := length_after? h₅
  have e₆ := congrArg List.length (cutAt?_eq h₆)
  have b₃ := length_dropWhile_le isTypeChar r₂
  have b₄ := length_skipBlanks_le r₃
  simp at e₁ e₃ e₄ e₅ e₆
  dsimp only
  omega

/-- The declarations of a text that starts on the given line. `inWord` tells that the character
before it is a word character. -/
def scanFrom (mark : Text) (inWord : Bool) (line : Nat) (t : Text) : List Declaration :=
  match t with
  | [] => []
  | c :: r =>
    match _h : if inWord ≠ isWord c then read? mark line (c :: r) else none with
    | some (d, rest) =>
      d :: scanFrom mark false (line + (c :: r).count '\n' - rest.count '\n') rest
    | none => scanFrom mark (isWord c) (if c = '\n' then line + 1 else line) r
termination_by t.length
decreasing_by
  · split at _h
    · exact length_read? _h
    · simp at _h
  · simp

end Declaration

/-- All exported declarations of a header, whatever their names. -/
def declarations (mark : Text) (t : Text) : List Declaration :=
  Declaration.scanFrom mark false 1 (stripComments t)

/-- A name without the prefix of the library, if it has the prefix and something after it. -/
def shortName? (libraryPrefix name : Text) : Option Text :=
  match dropPrefix? libraryPrefix name with
  | some (c :: r) => some (c :: r)
  | _ => none

end HeaderBindings.Header
