import HeaderBindings.Text.Quoted

/-!
# Texts with surrogates

A string of a data file may hold surrogates that belong to no pair, and then it is no text. It is a
list of code points, and where it is shown its surrogates are written by their numbers.
-/
namespace HeaderBindings

/-- A character, or one of the 2048 surrogates. -/
inductive CodePoint
  | char (c : Char)
  | surrogate (n : Fin 2048)
deriving DecidableEq, Repr

namespace CodePoint

def toNat : CodePoint → Nat
  | .char c => c.toNat
  | .surrogate n => 0xD800 + n

/-- The code point of a number below U+10FFFF. -/
def ofNat (n : Nat) : CodePoint :=
  if h : 0xD800 ≤ n ∧ n < 0xE000 then .surrogate ⟨n - 0xD800, by omega⟩ else .char (Char.ofNat n)

/-- A character for readers that a surrogate is an ordinary character to. -/
def stand : CodePoint → Char
  | .char c => c
  | .surrogate _ => '\uFFFD'

def escape (n : Fin 2048) : Text := '\\' :: 'u' :: Text.ofHex 4 (0xD800 + n)

end CodePoint

abbrev WideText := List CodePoint

namespace WideText

def ofText (t : Text) : WideText := t.map .char

/-- The text of code points without surrogates. -/
def toText? : WideText → Option Text
  | [] => some []
  | .char c :: r => (toText? r).map (c :: ·)
  | .surrogate _ :: _ => none

/-- The text in which surrogates are written by their numbers. -/
def shown (w : WideText) : Text := w.flatMap fun
  | .char c => [c]
  | .surrogate n => CodePoint.escape n

/-- Code points as they are quoted in messages. -/
def quoted (w : WideText) : Text :=
  let mark := Text.quoteMark (w.map CodePoint.stand)
  mark :: w.flatMap (fun
    | .char c => Text.escapeChar mark c
    | .surrogate n => CodePoint.escape n) ++ [mark]

@[simp] theorem toText?_ofText (t : Text) : (ofText t).toText? = some t := by
  induction t with
  | nil => rfl
  | cons c t ih =>
    have hcons : (ofText (c :: t)).toText? = (ofText t).toText?.map (c :: ·) := rfl
    rw [hcons, ih]
    rfl

theorem ofText_inj {t u : Text} : ofText t = ofText u ↔ t = u := by
  refine ⟨fun h => ?_, fun h => h ▸ rfl⟩
  have hu := toText?_ofText u
  rw [← h, toText?_ofText] at hu
  exact Option.some.inj hu

end WideText

/-- A string that is no text. -/
structure BrokenText where
  points : WideText
  noText : points.toText? = none
deriving DecidableEq, Repr

end HeaderBindings
