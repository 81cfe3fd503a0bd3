/-!
# Texts

A text is the list of its code points, so that every reader recurses on the text itself. A reader
takes the text and returns what it read with the rest; the rest is always a suffix.
-/
namespace HeaderBindings

abbrev Text := List Char

namespace Text

/-- Whether a number lies in one of the closed ranges. -/
def inRanges (ranges : List (Nat × Nat)) (n : Nat) : Bool :=
  ranges.any fun r => r.1 ≤ n && n ≤ r.2

theorem inRanges_iff {ranges : List (Nat × Nat)} {n : Nat} :
    inRanges ranges n = true ↔ ∃ r ∈ ranges, r.1 ≤ n ∧ n ≤ r.2 := by
  simp [inRanges]

/-- What follows the given beginning, if the text begins so. -/
def dropPrefix? : Text → Text → Option Text
  | [], t => some t
  | _ :: _, [] => none
  | p :: ps, c :: cs => if p = c then dropPrefix? ps cs else none

@[simp] theorem dropPrefix?_append (p r : Text) : dropPrefix? p (p ++ r) = some r := by
  induction p with
  | nil => rfl
  | cons c p ih => simp [dropPrefix?, ih]

theorem dropPrefix?_eq_some_iff {p t r : Text} : dropPrefix? p t = some r ↔ t = p ++ r := by
  refine ⟨fun h => ?_, fun h => h ▸ dropPrefix?_append p r⟩
  induction p generalizing t with
  | nil => simpa [dropPrefix?] using h
  | cons c p ih =>
    cases t with
    | nil => simp [dropPrefix?] at h
    | cons d t =>
      by_cases hc : c = d
      · simp [dropPrefix?, hc] at h; simp [hc, ih h]
      · simp [dropPrefix?, hc] at h

def startsWith (t p : Text) : Bool := (dropPrefix? p t).isSome

/-- The pieces between the occurrences of a separator; always at least one. -/
def splitOn (sep : Char) : Text → List Text
  | [] => [[]]
  | c :: r =>
    if c = sep then [] :: splitOn sep r
    else match splitOn sep r with
      | [] => [[c]]
      | piece :: pieces => (c :: piece) :: pieces

/-- Puts a character in front of the first piece. -/
def onto (c : Char) : List Text → List Text
  | [] => [[c]]
  | p :: ps => (c :: p) :: ps

/-- Texts written one after another with a separator between two neighbours. -/
def join (sep : Text) : List Text → Text
  | [] => []
  | [t] => t
  | t :: u :: ts => t ++ sep ++ join sep (u :: ts)

/-- The part before the first occurrence of a character, and what follows it. -/
def cutAt? (c : Char) : Text → Option (Text × Text)
  | [] => none
  | d :: r => if d = c then some ([], r) else (cutAt? c r).map fun p => (d :: p.1, p.2)

theorem cutAt?_eq {c : Char} {t a b : Text} (h : cutAt? c t = some (a, b)) : t = a ++ c :: b := by
  induction t generalizing a b with
  | nil => simp [cutAt?] at h
  | cons d t ih =>
    by_cases hd : d = c
    · simp [cutAt?, hd] at h; simp [hd, h.1.symm, h.2]
    · simp only [cutAt?, hd, if_false, Option.map_eq_some_iff] at h
      obtain ⟨⟨u, v⟩, hp, he⟩ := h
      simp only [Prod.mk.injEq] at he
      rw [← he.1, ← he.2, ih hp]; rfl

/-- The longest end of a text whose characters all satisfy `p` is removed. -/
def dropRightWhile (p : Char → Bool) (t : Text) : Text := (t.reverse.dropWhile p).reverse

def replaceChar (c : Char) (replacement : Text) (t : Text) : Text :=
  t.flatMap fun d => if d = c then replacement else [d]

def ofNat (n : Nat) : Text := Nat.toDigits 10 n

def ofInt : Int → Text
  | .ofNat n => ofNat n
  | .negSucc n => '-' :: ofNat (n + 1)

/-- Lower-case letters for ASCII capitals. -/
def lower (t : Text) : Text := t.map Char.toLower

end Text
end HeaderBindings
