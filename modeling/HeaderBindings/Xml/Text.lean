import HeaderBindings.Datum.Basic
import HeaderBindings.Text.Lines

/-!
# Texts in XML

A value is cleaned before it is written: control characters other than tab, line feed and carriage
return vanish. What is left is legal unless it holds a surrogate or one of the two non-characters
U+FFFE, U+FFFF.
-/
namespace HeaderBindings.Xml

/-- The control characters that no document may hold. -/
def isControl (c : Char) : Bool :=
  c.toNat < 32 && c ≠ '\t' && c ≠ '\n' && c ≠ '\r'

def isLegalChar (c : Char) : Bool := !isControl c && c ≠ '\uFFFE' && c ≠ '\uFFFF'

def isLegalPoint : CodePoint → Bool
  | .char c => isLegalChar c
  | .surrogate _ => false

def isLegal (w : WideText) : Bool := w.all isLegalPoint

def isKept : CodePoint → Bool
  | .char c => !isControl c
  | .surrogate _ => true

def clean (w : WideText) : WideText := w.filter isKept

/-- The string of a value: nothing for null, and lower-case words for truth values. -/
def ofDatum : Datum → WideText
  | .null => []
  | .bool b => .ofText (if b then "true" else "false").toList
  | d => clean d.toWide

/-- The characters that are escaped everywhere. -/
def escapeChar (c : Char) : Text :=
  if c = '&' then "&amp;".toList
  else if c = '<' then "&lt;".toList
  else if c = '>' then "&gt;".toList
  else if c = '\r' then "&#13;".toList
  else [c]

def escapeAttributeChar (c : Char) : Text :=
  if c = '"' then "&quot;".toList
  else if c = '\n' then "&#10;".toList
  else if c = '\t' then "&#9;".toList
  else escapeChar c

def escape (t : Text) : Text := t.flatMap escapeChar

def escapeAttribute (t : Text) : Text := t.flatMap escapeAttributeChar

def sectionOpen : Text := "<![CDATA[".toList

def sectionClose : Text := "]]>".toList

/-- A text with every mark that would end a section split between two sections. -/
def splitClosings : Text → Text
  | [] => []
  | c :: r =>
    if Text.startsWith (c :: r) sectionClose then "]]".toList ++ sectionClose ++ sectionOpen ++
      splitClosings r.tail
    else c :: splitClosings r
termination_by t => t.length
decreasing_by
  all_goals simp only [List.length_tail, List.length_cons]; omega

/-- A text as a section of plain characters. -/
def plainSection (t : Text) : Text := sectionOpen ++ splitClosings t ++ sectionClose

end HeaderBindings.Xml
