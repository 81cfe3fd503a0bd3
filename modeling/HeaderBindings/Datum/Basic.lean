import HeaderBindings.Datum.Moment
import HeaderBindings.Decimal.Layout
import HeaderBindings.Text.Numeral
import HeaderBindings.Text.Wide

/-!
# Data of configuration files

Configuration and type profiles are data without a fixed shape. Lists and mappings apart, all data
can be keys of a mapping; truth values and numbers are one key when they are equal. A mapping keeps
the order in which its keys first appeared, each as it was first written, and a later value for a
key replaces the earlier one in its place. A string is a text unless it holds surrogates. A reader
may give values of further kinds, such as bytes, sets and tuples.
-/
namespace HeaderBindings

/-- What a value of a further kind is worth as a whole number. -/
inductive Worth
  | number (n : Int)
  | malformed
  | nothing
deriving DecidableEq, Repr

/-- A value of a further kind, as it is seen from outside: how it is shown, if it has a text,
whether it is empty, whether it can be a key, its worth as a whole number, and what a search for it
finds: bytes of word characters are searched for as they are shown, and those of others are not
modelled. -/
structure Further where
  kind : String
  shown : Option Text
  isEmpty : Bool
  isKey : Bool
  worth : Worth
  mark : Option Text
deriving DecidableEq, Repr

inductive Datum
  | null
  | bool (b : Bool)
  | int (n : Int)
  | float (x : Float)
  | text (t : Text)
  | broken (b : BrokenText)
  | moment (m : Moment)
  | further (f : Further) (members : List Datum)
  | list (items : List Datum)
  | map (entries : List (Datum × Datum))
deriving BEq, Repr, Inhabited

namespace Datum

/-- What a datum stands for as a key. -/
inductive Key
  | null
  | int (n : Int)
  | float (bits : Nat)
  | notANumber
  | text (t : Text)
  | broken (b : BrokenText)
  | moment (m : Moment)
  | further (f : Further)
deriving DecidableEq, Repr

def keyOfFloat (x : Float) : Key :=
  if x.isNaN then .notANumber
  else if x.isInf then .float x.toBits.toNat
  else match Decimal.integerPart x with
    | (n, true) => .int n
    | (_, false) => .float x.toBits.toNat

/-- The key of a datum; lists and mappings are no keys. -/
def key? : Datum → Option Key
  | .null => some .null
  | .bool b => some (.int (if b then 1 else 0))
  | .int n => some (.int n)
  | .float x => some (keyOfFloat x)
  | .text t => some (.text t)
  | .broken b => some (.broken b)
  | .moment m => some (.moment m)
  | .further f _ => if f.isKey then some (.further f) else none
  | .list _ => none
  | .map _ => none

@[simp] theorem key?_text (t : Text) : (text t).key? = some (.text t) := rfl

/-- The entries with a new value for a key. -/
def put {α : Type} (key : Datum) (value : α) : List (Datum × α) → List (Datum × α)
  | [] => [(key, value)]
  | (k, v) :: rest =>
    if k.key? = key.key? then (k, value) :: rest else (k, v) :: put key value rest

/-- The value of a key. -/
def lookup? {α : Type} (key : Datum) : List (Datum × α) → Option α
  | [] => none
  | (k, v) :: rest => if k.key? = key.key? then some v else lookup? key rest

/-- The value of a text as a key. -/
def field? {α : Type} (name : String) (entries : List (Datum × α)) : Option α :=
  lookup? (.text name.toList) entries

@[simp] theorem lookup?_put {α : Type} (key k : Datum) (value : α) (es : List (Datum × α)) :
    lookup? k (put key value es) = if key.key? = k.key? then some value else lookup? k es := by
  induction es with
  | nil => simp [put, lookup?]
  | cons e es ih =>
    by_cases h : e.1.key? = key.key?
    · by_cases hk : key.key? = k.key? <;> simp_all [put, lookup?]
    · by_cases hk : key.key? = k.key?
      · have hk' : e.1.key? ≠ k.key? := fun h' => h (h'.trans hk.symm)
        simp only [put, if_neg h, lookup?, if_neg hk', ih, if_pos hk]
      · simp [put, lookup?, h, ih, hk]

/-- Null, false, zero and everything without content. -/
def isEmpty : Datum → Bool
  | .null => true
  | .bool b => !b
  | .int n => n = 0
  | .float x => x == 0.0
  | .text t => t.isEmpty
  | .broken _ => false
  | .moment _ => false
  | .further f _ => f.isEmpty
  | .list items => items.isEmpty
  | .map entries => entries.isEmpty

/-- The name of the kind of a datum. -/
def kindName : Datum → String
  | .null => "NoneType"
  | .bool _ => "bool"
  | .int _ => "int"
  | .float _ => "float"
  | .text _ => "str"
  | .broken _ => "str"
  | .moment m => m.kindName
  | .further f _ => f.kind
  | .list _ => "list"
  | .map _ => "dict"

def text? : Datum → Option Text
  | .text t => some t
  | _ => none

/-- Whether a datum is a string with surrogates. -/
def isBroken : Datum → Bool
  | .broken _ => true
  | _ => false

/-- The text that a search for a datum finds. -/
def mark? : Datum → Option Text
  | .text t => some t
  | .further f _ => f.mark
  | _ => none

/-- Whether a datum can be searched for. A string with surrogates can, and is found nowhere. -/
def isMark (d : Datum) : Bool := d.mark?.isSome || d.isBroken

/-- The string of some code points. -/
def ofWide (w : WideText) : Datum :=
  match h : w.toText? with
  | some t => .text t
  | none => .broken ⟨w, h⟩

/-- The code points of a string. -/
def wide? : Datum → Option WideText
  | .text t => some (.ofText t)
  | .broken b => some b.points
  | _ => none

/-- The strings of a list that holds nothing else. -/
def strings? : Datum → Option (List WideText)
  | .list items => items.mapM wide?
  | _ => none

mutual

/-- A datum as it is shown in messages: texts in quotes, lists in brackets, mappings in braces. -/
def write : Datum → Text
  | .null => "None".toList
  | .bool b => if b then "True".toList else "False".toList
  | .int n => Text.ofInt n
  | .float x => Decimal.Layout.standard.writeFloat x
  | .text t => Text.quoted t
  | .broken b => b.points.quoted
  | .moment m => m.write
  | .further f _ => f.shown.getD []
  | .list items => '[' :: writeItems items ++ [']']
  | .map entries => '\x7b' :: writeEntries entries ++ ['\x7d']

def writeItems : List Datum → Text
  | [] => []
  | [d] => write d
  | d :: e :: rest => write d ++ [',', ' '] ++ writeItems (e :: rest)

def writeEntries : List (Datum × Datum) → Text
  | [] => []
  | [(k, d)] => write k ++ [':', ' '] ++ write d
  | (k, d) :: e :: rest =>
    write k ++ [':', ' '] ++ write d ++ [',', ' '] ++ writeEntries (e :: rest)

end

mutual

/-- Whether a datum has a text, as it has if all its integers and its further values do. -/
def isWritable : Datum → Bool
  | .int n => Text.isWritable n
  | .further f _ => f.shown.isSome
  | .list items => areWritable items
  | .map entries => haveWritable entries
  | _ => true

def areWritable : List Datum → Bool
  | [] => true
  | d :: ds => d.isWritable && areWritable ds

def haveWritable : List (Datum × Datum) → Bool
  | [] => true
  | (k, d) :: es => k.isWritable && d.isWritable && haveWritable es

end

/-- A datum as it is inserted in a text: a string as it is, anything else as in messages. -/
def toWide : Datum → WideText
  | .text t => .ofText t
  | .broken b => b.points
  | .moment m => .ofText m.toText
  | d => .ofText d.write

/-- A datum as it is inserted in a text that is shown. -/
def toText : Datum → Text
  | .text t => t
  | .broken b => b.points.shown
  | .moment m => m.toText
  | d => d.write

end Datum
end HeaderBindings
