import HeaderBindings.Text.CharacterNameTable
import HeaderBindings.Text.Digit

/-!
# Names of characters

Most characters are named in a table, in which letters count in either case. The name of a Hangul
syllable is put together from the names of its letters, and the name of an ideograph ends in its
code point.
-/
namespace HeaderBindings.Text

/-! ### The table -/

/-- Whether a coded list of names holds a name. The name before in the list has `length` characters,
of which so many as `matched` are also the beginning of the name that is looked for. -/
def listsName (name : Array Char) : Nat → Nat → Text → Bool
  | length, matched, [] => matched = length && length = name.size
  | length, matched, c :: r =>
    if 256 ≤ c.toNat then
      (matched = length && length = name.size) ||
        listsName name (c.toNat - 256) (min matched (c.toNat - 256)) r
    else
      listsName name (length + 1)
        (if matched = length && name[matched]? = some c then matched + 1 else matched) r

def isListedName (name : Text) : Bool :=
  name ≠ [] && listsName (name.map Char.toUpper).toArray 0 0 (characterNameTable.flatMap String.toList)

/-! ### Hangul syllables -/

def leadingJamo : List String := [
  "G", "GG", "N", "D", "DD", "R", "M", "B", "BB", "S", "SS", "", "J", "JJ", "C", "K", "T", "P", "H"]

def vowelJamo : List String := [
  "A", "AE", "YA", "YAE", "EO", "E", "YEO", "YE", "O", "WA", "WAE", "OE", "YO", "U", "WEO", "WE",
  "WI", "YU", "EU", "YI", "I"]

def trailingJamo : List String := [
  "", "G", "GG", "GS", "N", "NJ", "NH", "D", "L", "LG", "LM", "LB", "LS", "LT", "LP", "LH", "M",
  "B", "BS", "S", "SS", "NG", "J", "C", "K", "T", "P", "H"]

/-- What follows the longest of some beginnings, if the text begins with one of them. -/
def dropLongest? (beginnings : List String) (t : Text) : Option Text :=
  (beginnings.filterMap fun b => dropPrefix? b.toList t).foldl
    (fun best rest =>
      match best with
      | none => some rest
      | some shortest => some (if rest.length < shortest.length then rest else shortest))
    none

/-- Whether a text is the name of a syllable without the words in front of it. -/
def isSyllable (t : Text) : Bool :=
  ((dropLongest? leadingJamo t).bind fun r =>
    (dropLongest? vowelJamo r).bind fun r => dropLongest? trailingJamo r) = some []

/-! ### Ideographs -/

/-- The ranges of the unified ideographs. -/
def ideographTable : List (Nat × Nat) := [
    (0x3400, 0x4DBF), (0x4E00, 0x9FFF), (0x20000, 0x2A6DF), (0x2A700, 0x2B738), (0x2B740, 0x2B81D),
    (0x2B820, 0x2CEA1), (0x2CEB0, 0x2EBE0), (0x30000, 0x3134A)]

/-- The value of a hexadecimal digit with a capital letter. -/
def capitalHexValue? (c : Char) : Option Nat := if c.isLower then none else hexValue? c

/-- Whether four or five digits are the code point of an ideograph. -/
def isIdeographNumber (t : Text) : Bool :=
  (t.length = 4 || t.length = 5) &&
    match t.mapM capitalHexValue? with
    | some digits => inRanges ideographTable (ofDigits 16 digits)
    | none => false

/-- Whether a text names a character. -/
def isCharacterName (t : Text) : Bool :=
  match dropPrefix? "HANGUL SYLLABLE ".toList t with
  | some r => isSyllable r
  | none =>
    match dropPrefix? "CJK UNIFIED IDEOGRAPH-".toList t with
    | some r => isIdeographNumber r
    | none => isListedName t

end HeaderBindings.Text
