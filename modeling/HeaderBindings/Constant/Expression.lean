import HeaderBindings.Constant.Value

/-!
# Expressions and their values

Expansions are read in a grammar that is wider than arithmetic. Of its expressions only number
literals, signs, complements and ten binary operators have a value; every other form is kept as the
name of the form alone, because evaluation refuses it without looking inside.
-/
namespace HeaderBindings.Constant

/-- The forms of expression without a value. -/
inductive Form
  | name | constant | tuple | list | set | dict | listComp | setComp | dictComp | generatorExp
  | lambda | ifExp | boolOp | compare | call | attribute | subscript | starred | namedExpr
  | await | yield | yieldFrom | joinedStr | unaryOp | binOp
deriving DecidableEq, Repr

/-- The word for a form in messages. -/
def Form.label : Form → String
  | .name => "Name" | .constant => "Constant" | .tuple => "Tuple" | .list => "List"
  | .set => "Set" | .dict => "Dict" | .listComp => "ListComp" | .setComp => "SetComp"
  | .dictComp => "DictComp" | .generatorExp => "GeneratorExp" | .lambda => "Lambda"
  | .ifExp => "IfExp" | .boolOp => "BoolOp" | .compare => "Compare" | .call => "Call"
  | .attribute => "Attribute" | .subscript => "Subscript" | .starred => "Starred"
  | .namedExpr => "NamedExpr" | .await => "Await" | .yield => "Yield"
  | .yieldFrom => "YieldFrom" | .joinedStr => "JoinedStr" | .unaryOp => "UnaryOp"
  | .binOp => "BinOp"

inductive Expr
  | int (n : Nat)
  | float (x : Float)
  | unary (op : UnaryOp) (e : Expr)
  | binary (op : BinaryOp) (left right : Expr)
  | refused (form : Form)
deriving Repr, Inhabited

inductive EvalError
  | unsupported (form : Form)
  | arithmetic (cause : ArithmeticError)
deriving DecidableEq, Repr

def EvalError.message : EvalError → String
  | .unsupported form => s!"Unsupported expression node: {form.label}"
  | .arithmetic cause => cause.message

/-- The left operand is evaluated before the right one, so its error wins. -/
def Expr.eval : Expr → Except EvalError Value
  | .int n => .ok (.int n)
  | .float x => .ok (.float x)
  | .unary op e => do
    let v ← e.eval
    (op.apply v).mapError .arithmetic
  | .binary op left right => do
    let a ← left.eval
    let b ← right.eval
    (op.apply a b).mapError .arithmetic
  | .refused form => .error (.unsupported form)

/-- How many expressions stand inside one another where evaluation goes deepest. A right operand is
only reached when the left one has a value. -/
def Expr.reach : Expr → Nat
  | .unary _ e => e.reach + 1
  | .binary _ left right =>
    max left.reach (match left.eval with
      | .ok _ => right.reach
      | .error _ => 0) + 1
  | _ => 1

end HeaderBindings.Constant
