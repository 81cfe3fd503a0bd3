import HeaderBindings.Text.Blank

/-!
# The text of a header

A header text is normalized before anything is read from it: carriage returns vanish, tabs become
spaces, and a backslash at the end of a line joins it to the next. Comments are blanked out, so that
every other character keeps its place: first all block comments, then all line comments.
-/
namespace HeaderBindings.Header

def joinContinuations : Text → Text
  | [] => []
  | '\\' :: '\n' :: r => joinContinuations r
  | c :: r => c :: joinContinuations r

def normalize (t : Text) : Text :=
  joinContinuations ((t.filter (· ≠ '\r')).map fun c => if c = '\t' then ' ' else c)

/-- What a character of a comment becomes. -/
def blankOut (c : Char) : Char := if c = '\n' then '\n' else ' '

/-- The text up to and with the first end of a block comment, and what follows it. -/
def splitAtClose? : Text → Option (Text × Text)
  | [] => none
  | [_] => none
  | c :: d :: r =>
    if c = '*' ∧ d = '/' then some ([c, d], r)
    else (splitAtClose? (d :: r)).map fun p => (c :: p.1, p.2)

theorem splitAtClose?_eq {t a b : Text} (h : splitAtClose? t = some (a, b)) : t = a ++ b := by
  fun_induction splitAtClose? t generalizing a b with
  | case1 => simp at h
  | case2 => simp at h
  | case3 c d r hc => simp at h; simp [← h.1, ← h.2]
  | case4 c d r hc ih =>
    obtain ⟨⟨u, v⟩, hp, he⟩ := Option.map_eq_some_iff.1 h
    simp only [Prod.mk.injEq] at he
    rw [← he.1, ← he.2, ih hp]; rfl

/-- Blanks out the block comments; an opening mark that nothing closes is ordinary text. -/
def blankBlockComments : Text → Text
  | [] => []
  | [c] => [c]
  | c :: d :: r =>
    if c = '/' ∧ d = '*' then
      match _h : splitAtClose? r with
      | some (body, rest) => ' ' :: ' ' :: body.map blankOut ++ blankBlockComments rest
      | none => c :: blankBlockComments (d :: r)
    else c :: blankBlockComments (d :: r)
termination_by t => t.length
decreasing_by
  all_goals simp
  have := congrArg List.length (splitAtClose?_eq _h)
  simp at this; omega

/-- Blanks out the line comments. The flag tells that one has begun on this line. -/
def blankLineComments : Bool → Text → Text
  | _, [] => []
  | true, c :: r => blankOut c :: blankLineComments (c ≠ '\n') r
  | false, c :: r =>
    if c = '/' ∧ r.head? = some '/' then ' ' :: blankLineComments true r
    else c :: blankLineComments false r

def stripComments (t : Text) : Text := blankLineComments false (blankBlockComments t)

end HeaderBindings.Header
