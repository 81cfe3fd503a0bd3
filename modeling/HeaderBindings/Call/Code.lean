import HeaderBindings.Call.Plan

/-!
# Call code

The code of a plan with matrices has one block for each instantiation. A block declares all matrix
headers, sets up those whose matrix is not empty, and calls the native function. Without matrices
the code is the call alone.
-/
namespace HeaderBindings.Call

inductive Statement
  | declare (step : MatrixStep)
  | attach (step : MatrixStep) (matrixType : Text)
  | call (e : Expression)
deriving DecidableEq, Repr

def indent : Text := "    ".toList

/-- An axis length, as an expression. -/
def sizeOf (axis : Text) : Text := "$SIZE(".toList ++ axis ++ [')']

def Statement.lines : Statement → List Text
  | .declare s =>
    ["CvMat ".toList ++ s.variableName ++ ", *".toList ++ s.pointerName ++ " = NULL;".toList]
  | .attach s type =>
    ["if(".toList ++ sizeOf s.rows ++ " && ".toList ++ sizeOf s.columns ++ ") \x7b".toList,
      indent ++ s.variableName ++ " = cvMat(".toList ++ sizeOf s.columns ++ ", ".toList ++
        sizeOf s.rows ++ ", ".toList ++ type ++ ", $P(".toList ++ s.name ++ "));".toList,
      indent ++ s.pointerName ++ " = &".toList ++ s.variableName ++ [';'],
      ['\x7d']]
  | .call e => [e.write]

namespace Plan

/-- The statements of one block. -/
def body (p : Plan) (i : Instantiation) : List Statement :=
  p.steps.map .declare ++ p.steps.map (fun s => .attach s (s.matrixType i).toList) ++ [.call p.call]

def block (p : Plan) (i : Instantiation) : List Text :=
  ("types(".toList ++ i.letter :: ") %\x7b".toList) ::
    (p.body i).flatMap (fun s => s.lines.map (indent ++ ·)) ++ ["%\x7d".toList]

def code (p : Plan) (instantiations : List Instantiation) : Text :=
  if p.isGeneric then Text.join ['\n'] (instantiations.flatMap p.block) else p.call.write

end Plan
end HeaderBindings.Call
