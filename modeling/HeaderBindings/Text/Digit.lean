import HeaderBindings.Text.Basic

/-!
# Decimal digits

The decimal digits of a script are ten consecutive code points that start at its zero. Some further
characters, such as a superscript two or a circled one, count as digits but are no decimal digits.
-/
namespace HeaderBindings.Text

/-- The zeros of the scripts beyond ASCII. -/
def zeroTable : List Nat := [
    1632, 1776, 1984, 2406, 2534, 2662, 2790, 2918, 3046, 3174, 3302, 3430, 3558, 3664, 3792, 3872,
    4160, 4240, 6112, 6160, 6470, 6608, 6784, 6800, 6992, 7088, 7232, 7248, 42528, 43216, 43264,
    43472, 43504, 43600, 44016, 65296, 66720, 68912, 69734, 69872, 69942, 70096, 70384, 70736,
    70864, 71248, 71360, 71472, 71904, 72016, 72784, 73040, 73120, 92768, 92864, 93008, 120782,
    120792, 120802, 120812, 120822, 123200, 123632, 125264, 130032]

/-- Digit-like characters that are no decimal digits. -/
def digitLikeTable : List (Nat × Nat) := [
    (178, 179), (185, 185), (4969, 4977), (6618, 6618), (8304, 8304), (8308, 8313), (8320, 8329),
    (9312, 9320), (9332, 9340), (9352, 9360), (9450, 9450), (9461, 9469), (9471, 9471),
    (10102, 10110), (10112, 10120), (10122, 10130), (68160, 68163), (69216, 69224), (69714, 69722),
    (127232, 127242)]

/-- The value of a decimal digit of any script. -/
def digitValue? (c : Char) : Option Nat :=
  if c.isDigit then some (c.toNat - 48)
  else (zeroTable.find? fun z => z ≤ c.toNat && c.toNat ≤ z + 9).map (c.toNat - ·)

def isDecimal (c : Char) : Bool := (digitValue? c).isSome

def isDigitLike (c : Char) : Bool := isDecimal c || inRanges digitLikeTable c.toNat

/-- The digits at the start of a text, with single underscores allowed between two of them, and the
rest. There is no reading when an underscore after a digit is not followed by one. -/
def digitGroups? (value? : Char → Option Nat) : Text → Option (List Nat × Text)
  | [] => some ([], [])
  | c :: r =>
    match value? c with
    | none => some ([], c :: r)
    | some d =>
      match r with
      | '_' :: e :: s =>
        if (value? e).isSome then
          (digitGroups? value? (e :: s)).map fun p => (d :: p.1, p.2)
        else none
      | ['_'] => none
      | r => (digitGroups? value? r).map fun p => (d :: p.1, p.2)

/-- The number that a list of digits denotes in a base, most significant digit first. -/
def ofDigits (base : Nat) (digits : List Nat) : Nat :=
  digits.foldl (fun n d => n * base + d) 0

/-- The value of a hexadecimal digit, in either case. -/
def hexValue? (c : Char) : Option Nat :=
  if c.isDigit then some (c.toNat - 48)
  else if 'a' ≤ c ∧ c ≤ 'f' then some (c.toNat - 87)
  else if 'A' ≤ c ∧ c ≤ 'F' then some (c.toNat - 55)
  else none

/-- Lower-case hexadecimal digits, with zeros in front up to the given width. -/
def ofHex (width n : Nat) : Text :=
  let digits := Nat.toDigits 16 n
  List.replicate (width - digits.length) '0' ++ digits

end HeaderBindings.Text
