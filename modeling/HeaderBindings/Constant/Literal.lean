import HeaderBindings.Constant.Fault
import HeaderBindings.Constant.Nesting
import HeaderBindings.Text.Blank
import HeaderBindings.Text.Word

/-!
# The value of a macro expansion

An expansion is a constant if it holds no letter but `e`, is an expression, and has a finite value.
An octal numeral is a zero followed by octal digits that touches no word character and no point; it
is respelled with the mark `0o` before the expression is read.
-/
namespace HeaderBindings.Constant

def isOctalDigit (c : Char) : Bool := '0' ≤ c && c ≤ '7'

/-- Whether a character may not stand beside an octal numeral. -/
def touches (c : Char) : Bool := Text.isWord c || c = '.'

/-- Octal numerals get the mark `0o`. `free` tells that the character before does not touch. -/
def respellFrom : Bool → Text → Text
  | _, [] => []
  | free, c :: r =>
    let digits := r.takeWhile isOctalDigit
    if free && c = '0' && digits ≠ [] && !((r.dropWhile isOctalDigit).head?.any touches) then
      '0' :: 'o' :: respellFrom false r
    else c :: respellFrom (!touches c) r

def respellOctals (t : Text) : Text := respellFrom true t

/-- Why a text has no value. -/
inductive TextError
  | nul
  | malformed (cause : SyntaxError) (diagnosis : Diagnosis)
  | exhausted (cause : Exhaustion)
  | eval (cause : EvalError)
deriving DecidableEq, Repr

def TextError.message : TextError → String
  | .nul => "source code string cannot contain null bytes"
  | .malformed _ diagnosis => diagnosis.message
  | .exhausted _ => ""
  | .eval cause => cause.message

/-- What has run out, if that is the cause. -/
def TextError.exhaustion? : TextError → Option Exhaustion
  | .exhausted cause => some cause
  | .eval (.arithmetic .outOfMemory) => some .memory
  | _ => none

/-- The expression of a source text, if it is not nested too deeply. -/
def readExpression (source : Text) : Except TextError Expr := do
  if source.contains '\x00' then throw .nul
  if Nesting.depth (tokens source) ≥ Nesting.limit then throw (.exhausted .memory)
  let n ← (Node.ofText source).mapError fun cause => .malformed cause (diagnose source cause)
  if n.isTooDeep then throw (.exhausted .calls)
  .ok n.expr

/-- The value of an expression text, with the blanks around it dropped. -/
def evaluate (t : Text) : Except TextError Value := do
  let e ← readExpression (respellOctals (Text.trim t))
  e.eval.mapError .eval

/-- Letters that no numeric expansion holds: all of ASCII but `e`, and the underscore. -/
def isForeignLetter (c : Char) : Bool := (c.isAlpha && c ≠ 'e' && c ≠ 'E') || c = '_'

/-- What becomes of an expansion. -/
inductive Outcome
  | value (v : Value)
  | textual
  | failed (expansion : Text) (cause : TextError)
  | notFinite (expansion : Text)
  | exhausted (cause : Exhaustion)

def Value.isFinite : Value → Bool
  | .int _ => true
  | .float x => x.isFinite

def judge (expansion : Text) : Outcome :=
  let t := Text.trim expansion
  if t = [] || t.any isForeignLetter then .textual
  else match evaluate t with
    | .error cause =>
      match cause.exhaustion? with
      | some e => .exhausted e
      | none => .failed t cause
    | .ok v => if v.isFinite then .value v else .notFinite t

def Outcome.value? : Outcome → Option Value
  | .value v => some v
  | _ => none

def Outcome.exhaustion? : Outcome → Option Exhaustion
  | .exhausted cause => some cause
  | _ => none

/-- The value of an expansion, if it is a constant. -/
def literalValue? (expansion : Text) : Option Value := (judge expansion).value?

end HeaderBindings.Constant
