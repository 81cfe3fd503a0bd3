import HeaderBindings.Text.Basic

/-!
# Line ends

A line ends in a line feed. A carriage return with a line feed after it, and one without, is read as
a line feed.
-/
namespace HeaderBindings.Text

def unifyLineEnds : Text → Text
  | [] => []
  | '\r' :: '\n' :: r => '\n' :: unifyLineEnds r
  | c :: r => (if c = '\r' then '\n' else c) :: unifyLineEnds r

/-- The lines of a text without their line feeds; a text that ends in one has an empty last line. -/
def lines (t : Text) : List Text := splitOn '\n' t

end HeaderBindings.Text
