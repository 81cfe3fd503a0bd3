import HeaderBindings.Xml.Text

/-!
# XML nodes

A document is made of elements with attributes, texts and sections of plain characters. A value may
hold surrogates, but then it is not legal. A document is written in one of two forms. The compact
form has nothing between its elements and writes an opening and a closing tag for every element that
may have content. The indented form gives every element a line of its own, and an element without
content has a single tag.
-/
namespace HeaderBindings.Xml

abbrev Attributes := List (Text × WideText)

inductive Node
  | single (name : Text) (attributes : Attributes)
  | text (name : Text) (content : WideText)
  | plain (name : Text) (content : WideText)
  | group (name : Text) (attributes : Attributes) (children : List Node)
deriving Repr

def writeAttributes (as : Attributes) : Text :=
  as.flatMap fun a => ' ' :: a.1 ++ "=\"".toList ++ escapeAttribute a.2.shown ++ ['"']

def openTag (name : Text) (as : Attributes) : Text := '<' :: name ++ writeAttributes as ++ ['>']

def closeTag (name : Text) : Text := "</".toList ++ name ++ ['>']

def singleTag (name : Text) (as : Attributes) : Text :=
  '<' :: name ++ writeAttributes as ++ "/>".toList

def areLegal (as : Attributes) : Bool := as.all fun a => isLegal a.2

mutual

/-- The attribute values and contents of a node and of what stands inside it. -/
def Node.values : Node → List WideText
  | .single _ as => as.map Prod.snd
  | .text _ content => [content]
  | .plain _ content => [content]
  | .group _ as children => as.map Prod.snd ++ valuesAll children

def Node.valuesAll : List Node → List WideText
  | [] => []
  | n :: ns => n.values ++ valuesAll ns

end

/-- A part of a document, and whether it was written to its end. -/
structure Part where
  text : Text
  complete : Bool
deriving DecidableEq, Repr

namespace Node

mutual

/-- The compact form of a node. A node with an illegal value is not begun; a group that was begun is
closed after the last child that was written. -/
def compact : Node → Part
  | .single name as => if areLegal as then ⟨singleTag name as, true⟩ else ⟨[], false⟩
  | .text name content =>
    if isLegal content then ⟨openTag name [] ++ escape content.shown ++ closeTag name, true⟩
    else ⟨[], false⟩
  | .plain name content =>
    if isLegal content then ⟨openTag name [] ++ plainSection content.shown ++ closeTag name, true⟩
    else ⟨[], false⟩
  | .group name as children =>
    if areLegal as then
      let body := compactAll children
      ⟨openTag name as ++ body.text ++ closeTag name, body.complete⟩
    else ⟨[], false⟩

/-- The compact form of nodes in order, up to the first that is not complete. -/
def compactAll : List Node → Part
  | [] => ⟨[], true⟩
  | n :: ns =>
    let first := n.compact
    if first.complete then
      let rest := compactAll ns
      ⟨first.text ++ rest.text, rest.complete⟩
    else first

end

def indentation (depth : Nat) : Text := List.replicate (2 * depth) ' '

mutual

/-- The indented form of a node; a carriage return in a plain section has become a line feed. -/
def indented (depth : Nat) : Node → Text
  | .single name as => indentation depth ++ singleTag name as ++ ['\n']
  | .text name content =>
    indentation depth ++
      (if content = [] then singleTag name []
        else openTag name [] ++ escape content.shown ++ closeTag name) ++ ['\n']
  | .plain name content =>
    indentation depth ++ openTag name [] ++ plainSection (Text.unifyLineEnds content.shown) ++
      closeTag name ++ ['\n']
  | .group name as children =>
    if children.isEmpty then indentation depth ++ singleTag name as ++ ['\n']
    else
      indentation depth ++ openTag name as ++ '\n' :: indentedAll (depth + 1) children ++
        indentation depth ++ closeTag name ++ ['\n']

def indentedAll (depth : Nat) : List Node → Text
  | [] => []
  | n :: ns => n.indented depth ++ indentedAll depth ns

end

end Node
end HeaderBindings.Xml
