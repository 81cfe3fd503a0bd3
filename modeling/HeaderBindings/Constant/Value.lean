import HeaderBindings.Decimal.Layout
import HeaderBindings.Text.Numeral

/-!
# Constant values and their arithmetic

A constant is an integer of any size or a binary64 number. Division truncates and the remainder
takes the sign of the dividend; the bit operators act on two's complement integers of unbounded
width. When an integer meets a floating-point number it is rounded to the nearest one first.
-/
namespace HeaderBindings.Constant

inductive Value
  | int (n : Int)
  | float (x : Float)
deriving BEq, Repr, Inhabited

def Value.isInt : Value → Bool
  | .int _ => true
  | .float _ => false

def Value.write : Value → Text
  | .int n => Text.ofInt n
  | .float x => Decimal.Layout.standard.writeFloat x

/-- Whether a value has a text; an integer of too many digits has none. -/
def Value.isWritable : Value → Bool
  | .int n => Text.isWritable n
  | .float _ => true

/-- The text of a value that has one. -/
def Value.text? (v : Value) : Option Text := if v.isWritable then some v.write else none

inductive UnaryOp
  | plus | minus | complement
deriving DecidableEq, Repr

inductive BinaryOp
  | add | sub | mul | div | mod | shiftLeft | shiftRight | bitAnd | bitOr | bitXor
deriving DecidableEq, Repr

/-- Why an operation has no value. -/
inductive ArithmeticError
  | divisionByZero (integers : Bool)
  | negativeShift
  | shiftTooFar
  | outOfMemory
  | integerTooLarge
  | remainderOfFloat
  | bitsOfFloat (op : BinaryOp) (left right : Bool)
  | complementOfFloat
deriving DecidableEq, Repr

def BinaryOp.text : BinaryOp → String
  | .add => "+" | .sub => "-" | .mul => "*" | .div => "/" | .mod => "%"
  | .shiftLeft => "<<" | .shiftRight => ">>" | .bitAnd => "&" | .bitOr => "|" | .bitXor => "^"

/-- The word for a kind of number in messages. -/
def kindText (isInt : Bool) : String := if isInt then "int" else "float"

def ArithmeticError.message : ArithmeticError → String
  | .divisionByZero true => "integer division or modulo by zero"
  | .divisionByZero false => "float division by zero"
  | .negativeShift => "negative shift count"
  | .shiftTooFar => "too many digits in integer"
  | .outOfMemory => ""
  | .integerTooLarge => "int too large to convert to float"
  | .remainderOfFloat => "% requires integer operands"
  | .bitsOfFloat op l r =>
    s!"unsupported operand type(s) for {op.text}: '" ++ kindText l ++ "' and '" ++ kindText r ++ "'"
  | .complementOfFloat => "bad operand type for unary ~: 'float'"

namespace Bits

/-- The bits of `m` that are not bits of `n`. -/
def without (m n : Nat) : Nat := m ^^^ (m &&& n)

def and : Int → Int → Int
  | .ofNat m, .ofNat n => .ofNat (m &&& n)
  | .ofNat m, .negSucc n => .ofNat (without m n)
  | .negSucc m, .ofNat n => .ofNat (without n m)
  | .negSucc m, .negSucc n => .negSucc (m ||| n)

def or : Int → Int → Int
  | .ofNat m, .ofNat n => .ofNat (m ||| n)
  | .ofNat m, .negSucc n => .negSucc (without n m)
  | .negSucc m, .ofNat n => .negSucc (without m n)
  | .negSucc m, .negSucc n => .negSucc (m &&& n)

def xor : Int → Int → Int
  | .ofNat m, .ofNat n => .ofNat (m ^^^ n)
  | .ofNat m, .negSucc n => .negSucc (m ^^^ n)
  | .negSucc m, .ofNat n => .negSucc (m ^^^ n)
  | .negSucc m, .negSucc n => .ofNat (m ^^^ n)

def complement (n : Int) : Int := -n - 1

/-- Left shifts below this many places are carried out. -/
def shiftLimit : Nat := Decimal.twoTo 33

/-- An integer is kept in words of this many bits. -/
def wordBits : Nat := 30

/-- No integer has more words than this. -/
def maxWords : Nat := 2305843009213693945

/-- How many words an integer takes after a shift. -/
def wordsAfterShift (m : Int) (n : Nat) : Nat :=
  Nat.log2 m.natAbs / wordBits + 1 + (n + wordBits - 1) / wordBits

def shiftLeft (m : Int) (n : Nat) : Except ArithmeticError Int :=
  if m = 0 then .ok 0
  else if n < shiftLimit then .ok (m * Decimal.twoTo n)
  else if wordsAfterShift m n ≤ maxWords then .error .outOfMemory
  else .error .shiftTooFar

def shiftRight (m : Int) (n : Nat) : Int := m >>> n

end Bits

/-- The integer operations. -/
def BinaryOp.onInts (op : BinaryOp) (a b : Int) : Except ArithmeticError Int :=
  match op with
  | .add => .ok (a + b)
  | .sub => .ok (a - b)
  | .mul => .ok (a * b)
  | .div => if b = 0 then .error (.divisionByZero true) else .ok (a.tdiv b)
  | .mod => if b = 0 then .error (.divisionByZero true) else .ok (a.tmod b)
  | .shiftLeft => if b < 0 then .error .negativeShift else Bits.shiftLeft a b.toNat
  | .shiftRight => if b < 0 then .error .negativeShift else .ok (Bits.shiftRight a b.toNat)
  | .bitAnd => .ok (Bits.and a b)
  | .bitOr => .ok (Bits.or a b)
  | .bitXor => .ok (Bits.xor a b)

/-- The nearest floating-point number, if it is finite. -/
def Value.toFloat : Value → Except ArithmeticError Float
  | .float x => .ok x
  | .int n =>
    let x := Decimal.floatOfNat n.natAbs
    if x.isFinite then .ok (if n < 0 then -x else x) else .error .integerTooLarge

/-- The floating-point operations, for operands that are not both integers. -/
def BinaryOp.onFloats (op : BinaryOp) (a b : Value) : Except ArithmeticError Float :=
  match op with
  | .add => do return (← a.toFloat) + (← b.toFloat)
  | .sub => do return (← a.toFloat) - (← b.toFloat)
  | .mul => do return (← a.toFloat) * (← b.toFloat)
  | .div => do
    let x ← a.toFloat
    let y ← b.toFloat
    if y == 0.0 then .error (.divisionByZero false) else .ok (x / y)
  | .mod => .error .remainderOfFloat
  | _ => .error (.bitsOfFloat op a.isInt b.isInt)

def BinaryOp.apply (op : BinaryOp) : Value → Value → Except ArithmeticError Value
  | .int a, .int b => (op.onInts a b).map .int
  | a, b => (op.onFloats a b).map .float

def UnaryOp.apply : UnaryOp → Value → Except ArithmeticError Value
  | .plus, v => .ok v
  | .minus, .int n => .ok (.int (-n))
  | .minus, .float x => .ok (.float (-x))
  | .complement, .int n => .ok (.int (Bits.complement n))
  | .complement, .float _ => .error .complementOfFloat

end HeaderBindings.Constant
