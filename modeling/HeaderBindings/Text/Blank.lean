import HeaderBindings.Text.Basic

/-!
# Blanks

Unicode white space together with the four information separators U+001C to U+001F. Trimming
removes it from both ends, and collapsing makes every run of it one space.
-/
namespace HeaderBindings.Text

def blankTable : List (Nat × Nat) := [
    (9, 13), (28, 32), (133, 133), (160, 160), (5760, 5760), (8192, 8202), (8232, 8233),
    (8239, 8239), (8287, 8287), (12288, 12288)]

def isBlank (c : Char) : Bool := inRanges blankTable c.toNat

def skipBlanks (t : Text) : Text := t.dropWhile isBlank

def trim (t : Text) : Text := dropRightWhile isBlank (skipBlanks t)

theorem length_dropWhile_le (p : Char → Bool) (t : Text) : (t.dropWhile p).length ≤ t.length :=
  (List.dropWhile_suffix p).length_le

theorem length_skipBlanks_le (t : Text) : (skipBlanks t).length ≤ t.length :=
  length_dropWhile_le isBlank t

/-- The maximal runs without blanks, in order. -/
def words (t : Text) : List Text :=
  match _h : skipBlanks t with
  | [] => []
  | c :: r =>
    (c :: r.takeWhile (!isBlank ·)) :: words (r.dropWhile (!isBlank ·))
termination_by t.length
decreasing_by
  have h₁ := length_skipBlanks_le t
  have h₂ := length_dropWhile_le (!isBlank ·) r
  simp only [_h, List.length_cons] at h₁
  omega

/-- Every run of blanks becomes one space, and none is left at the ends. -/
def collapse (t : Text) : Text := join [' '] (words t)

end HeaderBindings.Text
