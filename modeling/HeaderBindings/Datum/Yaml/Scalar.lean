import HeaderBindings.Datum.Basic
import HeaderBindings.Datum.Yaml.Cursor

/-!
# Plain scalars as data

An unquoted scalar may denote null, a truth value, a number or a moment; everything else is a text,
but for two marks that only mean something as keys. Integers are decimal, or octal after a zero,
hexadecimal after `0x`, binary after `0b`, or decimal parts to the base of sixty with colons between
them; underscores between digits do not count.
-/
namespace HeaderBindings.Datum.Yaml.Scalar

open Text

def nullWords : List String := ["", "~", "null", "Null", "NULL"]

def trueWords : List String :=
  ["true", "True", "TRUE", "yes", "Yes", "YES", "on", "On", "ON"]

def falseWords : List String :=
  ["false", "False", "FALSE", "no", "No", "NO", "off", "Off", "OFF"]

def infinityWords : List String := [".inf", ".Inf", ".INF"]

def nanWords : List String := [".nan", ".NaN", ".NAN"]

def isOneOf (words : List String) (t : Text) : Bool := words.any (·.toList = t)

/-- The base of sixty, to which parts of times and angles are written. -/
def sixty : Nat := 60

def digitsOf (t : Text) : List Nat := (t.filter (· ≠ '_')).filterMap hexValue?

/-- Whether a text has characters and all are digits in a base or underscores. -/
def isDigits (base : Nat) (t : Text) : Bool :=
  t ≠ [] && t.all fun c => c = '_' || ((hexValue? c).map fun d => decide (d < base)).getD false

/-- The number of decimal digits, of which not too many may be read. -/
def decimalOf (t : Text) : Except Problem Nat :=
  let ds := digitsOf t
  if ds.length > maxDigits then .error (.tooLong ds.length) else .ok (ofDigits 10 ds)

/-- The number of digits in a base that is a power of two. -/
def binaryOf (base : Nat) (t : Text) : Except Problem Nat :=
  let ds := digitsOf t
  if ds = [] then .error (.noDigits base) else .ok (ofDigits base ds)

/-- Whether a text is a digit, or two digits below sixty. -/
def isSixtieth : Text → Bool
  | [d] => d.isDigit
  | [c, d] => '0' ≤ c && c ≤ '5' && d.isDigit
  | _ => false

/-- Parts with colons between them, all after the first below sixty. -/
def sixtieths? (t : Text) : Option (Text × List Text) :=
  match splitOn ':' t with
  | first :: p :: ps => if (p :: ps).all isSixtieth then some (first, p :: ps) else none
  | _ => none

/-- The number that an unsigned text denotes, if it is an integer. -/
def natural? (t : Text) : Option (Except Problem Nat) :=
  match t with
  | [] => none
  | '0' :: r =>
    match r with
    | [] => some (.ok 0)
    | 'b' :: r => if isDigits 2 r then some (binaryOf 2 r) else none
    | 'x' :: r => if isDigits 16 r then some (binaryOf 16 r) else none
    | r => if isDigits 8 r then some (.ok (ofDigits 8 (digitsOf r))) else none
  | d :: r =>
    if !d.isDigit then none
    else if r = [] || isDigits 10 r then some (decimalOf (d :: r))
    else match sixtieths? (d :: r) with
      | none => none
      | some (first, parts) =>
        if !isDigits 10 first then none
        else some do
          let first ← decimalOf first
          .ok (parts.foldl (fun n p => n * sixty + ofDigits 10 (digitsOf p)) first)

/-- The integer that a text denotes. -/
def int? (t : Text) : Option (Except Problem Int) :=
  let (negative, body) := splitSign t
  (natural? body).map fun n => n.map fun n => if negative then -(n : Int) else n

/-- An exponent: a mark, a sign and digits, up to the end. -/
def exponent? : Text → Option Int
  | [] => some 0
  | mark :: sign :: r =>
    if (mark = 'e' || mark = 'E') && (sign = '+' || sign = '-') && r ≠ [] && r.all Char.isDigit then
      let n : Int := ofDigits 10 (digitsOf r)
      some (if sign = '-' then -n else n)
    else none
  | _ => none

def isPlaceChar (c : Char) : Bool := c.isDigit || c = '_'

/-- The number of digits with a point among them. -/
def floatOf (whole places : Text) (e : Int) : Float :=
  Decimal.floatOfDecimal (ofDigits 10 (digitsOf (whole ++ places)))
    (e - (places.filter (· ≠ '_')).length)

/-- The sum of parts to the base of sixty, the last of which is a number of its own. -/
def sumSixtieths (parts : List Text) (last : Float) : Float :=
  let (sum, _) := parts.reverse.foldl (fun (sum, base) p =>
    (sum + Decimal.floatOfDecimal (ofDigits 10 (digitsOf p)) 0 * Decimal.floatOfNat base,
      base * sixty)) (0.0 + last, sixty)
  sum

/-- The number that an unsigned text with a point denotes; `hasSign` tells that there was a sign. A
number with a sign has a digit before its point. -/
def unsigned? (hasSign : Bool) (t : Text) : Option Float := do
  let (before, r) ← cutAt? '.' t
  let places := r.takeWhile isPlaceChar
  let r := r.dropWhile isPlaceChar
  match before with
  | [] =>
    if hasSign || !((places.head?.map Char.isDigit).getD false) then none
    else some (floatOf [] places (← exponent? r))
  | d :: _ =>
    if !d.isDigit then none
    else if before.all isPlaceChar then some (floatOf before places (← exponent? r))
    else
      let (first, parts) ← sixtieths? before
      if !first.all isPlaceChar || r ≠ [] then none
      else some (sumSixtieths (first :: parts.dropLast) (floatOf (parts.getLast?.getD []) places 0))

/-- The floating-point number that a text denotes. -/
def float? (t : Text) : Option Float :=
  let (negative, body) := splitSign t
  let x := if isOneOf infinityWords body then some (1.0 / 0.0) else unsigned? (body ≠ t) body
  (x.map fun x => if negative then -x else x).or
    (if isOneOf nanWords t then some (0.0 / 0.0) else none)

/-- What an unquoted scalar is. A merge mark and a value mark mean something as keys only. -/
inductive Meaning
  | datum (d : Datum)
  | merge
  | value

def meaning (t : Text) : Except Problem Meaning :=
  if isOneOf nullWords t then .ok (.datum .null)
  else if isOneOf trueWords t then .ok (.datum (.bool true))
  else if isOneOf falseWords t then .ok (.datum (.bool false))
  else if t = ['<', '<'] then .ok .merge
  else if t = ['='] then .ok .value
  else match float? t, int? t, Moment.ofText? t with
    | some x, _, _ => .ok (.datum (.float x))
    | none, some n, _ => n.map fun n => .datum (.int n)
    | none, none, some m =>
      match m.fault? with
      | some fault => .error (.noMoment fault)
      | none => .ok (.datum (.moment m))
    | none, none, none => .ok (.datum (.text t))

end HeaderBindings.Datum.Yaml.Scalar
