import HeaderBindings.Text.Digit

/-!
# Bytes to texts

A byte sequence is read as UTF-8. Where it is not well-formed, each longest beginning of a sequence
that could still have become well-formed, or else one byte, stands for one unreadable item.
-/
namespace HeaderBindings.Text

abbrev Bytes := List UInt8

namespace Utf8

def isTail (b : UInt8) : Bool := 0x80 ≤ b && b ≤ 0xBF

/-- The bytes that may follow a leading byte: how many tail bytes there are, and the bounds of the
first of them. Over-long forms, surrogates and numbers above U+10FFFF are left out by the bounds. -/
def tailShape? (lead : UInt8) : Option (Nat × UInt8 × UInt8) :=
  if 0xC2 ≤ lead && lead ≤ 0xDF then some (1, 0x80, 0xBF)
  else if lead == 0xE0 then some (2, 0xA0, 0xBF)
  else if lead == 0xED then some (2, 0x80, 0x9F)
  else if 0xE1 ≤ lead && lead ≤ 0xEF then some (2, 0x80, 0xBF)
  else if lead == 0xF0 then some (3, 0x90, 0xBF)
  else if lead == 0xF4 then some (3, 0x80, 0x8F)
  else if 0xF1 ≤ lead && lead ≤ 0xF3 then some (3, 0x80, 0xBF)
  else none

/-- The bits of a leading byte that belong to the code point. -/
def leadBits (lead : UInt8) (tails : Nat) : Nat :=
  lead.toNat % (if tails = 1 then 32 else if tails = 2 then 16 else 8)

/-- Reads `n` more tail bytes; the result is the code point, if they are all there, and the rest. -/
def readTails : Nat → Nat → Bytes → Option Nat × Bytes
  | 0, code, bs => (some code, bs)
  | _ + 1, _, [] => (none, [])
  | n + 1, code, b :: bs =>
    if isTail b then readTails n (code * 64 + b.toNat % 64) bs else (none, b :: bs)

theorem length_readTails_le (n code : Nat) (bs : Bytes) :
    (readTails n code bs).2.length ≤ bs.length := by
  induction n generalizing code bs with
  | zero => simp [readTails]
  | succ n ih =>
    cases bs with
    | nil => simp [readTails]
    | cons b bs =>
      by_cases h : isTail b
      · simpa [readTails, h] using Nat.le_succ_of_le (ih _ bs)
      · simp [readTails, h]

/-- One item after a leading byte. -/
def readItem (lead : UInt8) (bs : Bytes) : Option Char × Bytes :=
  if lead < 0x80 then (some (Char.ofNat lead.toNat), bs)
  else match tailShape? lead, bs with
    | some (n, low, high), b :: rest =>
      if low ≤ b && b ≤ high then
        let r := readTails (n - 1) (leadBits lead n * 64 + b.toNat % 64) rest
        (r.1.map Char.ofNat, r.2)
      else (none, bs)
    | _, _ => (none, bs)

theorem length_readItem_le (lead : UInt8) (bs : Bytes) :
    (readItem lead bs).2.length ≤ bs.length := by
  unfold readItem
  split
  · simp
  · split
    · split
      · exact Nat.le_succ_of_le (length_readTails_le _ _ _)
      · simp
    · simp

/-- The items of a byte sequence, `none` for an unreadable one. -/
def items : Bytes → List (Option Char)
  | [] => []
  | b :: bs => (readItem b bs).1 :: items (readItem b bs).2
termination_by bs => bs.length
decreasing_by
  have := length_readItem_le b bs
  simp; omega

/-- Why an item is unreadable. -/
inductive Reason
  | start | continuation | ended
deriving DecidableEq, Repr

/-- An unreadable item: where it starts, and its bytes. -/
structure Broken where
  position : Nat
  bytes : Bytes
  reason : Reason
deriving DecidableEq, Repr

def Broken.message (b : Broken) : Text :=
  let subject := match b.bytes with
    | [byte] => " byte 0x".toList ++ ofHex 2 byte.toNat ++ " in position ".toList ++
        ofNat b.position
    | bytes => " bytes in position ".toList ++ ofNat b.position ++ '-' ::
        ofNat (b.position + bytes.length - 1)
  let reason := match b.reason with
    | .start => "invalid start byte"
    | .continuation => "invalid continuation byte"
    | .ended => "unexpected end of data"
  "'utf-8' codec can't decode".toList ++ subject ++ ':' :: ' ' :: reason.toList

/-- The first unreadable item of a byte sequence that starts at a position. -/
def firstBroken? (position : Nat) : Bytes → Option Broken
  | [] => none
  | b :: bs =>
    match (readItem b bs).1 with
    | some _ =>
      firstBroken? (position + 1 + (bs.length - (readItem b bs).2.length)) (readItem b bs).2
    | none =>
      let rest := (readItem b bs).2
      let reason : Reason :=
        if (tailShape? b).isNone then .start else if rest = [] then .ended else .continuation
      some ⟨position, b :: bs.take (bs.length - rest.length), reason⟩
termination_by bs => bs.length
decreasing_by
  have := length_readItem_le b bs
  simp; omega

/-- Every unreadable item becomes U+FFFD. -/
def decodeReplacing (bs : Bytes) : Text := (items bs).map (·.getD '\uFFFD')

/-- The text, if every item is readable. -/
def decode (bs : Bytes) : Except Broken Text :=
  match firstBroken? 0 bs with
  | some b => .error b
  | none => .ok (decodeReplacing bs)

/-- The bytes of a text. -/
def encode (t : Text) : Bytes := t.flatMap String.utf8EncodeChar

end Utf8
end HeaderBindings.Text
