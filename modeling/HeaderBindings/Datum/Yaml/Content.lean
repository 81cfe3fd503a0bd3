import HeaderBindings.Datum.Yaml.Node
import HeaderBindings.Datum.Yaml.Scalar

/-!
# Nodes as data

A scalar without a tag is what its text denotes if it is plain, and a text otherwise; of the common
tags those for texts, null, sequences and mappings are known. A merge mark as a key brings in the
entries of another mapping, or of several, in front of a mapping's own. Of several problems the one
in the outermost collection is reported, and of those the first.
-/
namespace HeaderBindings.Datum.Yaml

/-! ### Merging -/

/-- A node with its merges carried out. A mapping that asks to merge something else than mappings
has no content. -/
inductive Merged
  | scalar (tag : Option Text) (text : Text) (isPlain : Bool)
  | sequence (tag : Option Text) (items : List Merged)
  | mapping (tag : Option Text) (entries : List (Merged × Merged))
  | impossible

namespace Merged

def isMergeKey : Merged → Bool
  | .scalar none t true => t = ['<', '<']
  | _ => false

/-- The entries that a node brings into another mapping. -/
def entries? : Merged → Option (List (Merged × Merged))
  | .mapping _ es => some es
  | _ => none

/-- What a merge brings in: of several mappings the entries of the last come first. -/
def merged? : Merged → Option (List (Merged × Merged))
  | .sequence _ items => (items.mapM entries?).map fun ess => ess.reverse.flatten
  | n => n.entries?

/-- The entries of a mapping with those that it merges in front. -/
def combine? (entries : List (Merged × Merged)) : Option (List (Merged × Merged)) := do
  let (merges, own) := entries.partition (·.1.isMergeKey)
  let brought ← merges.mapM fun e => merged? e.2
  some (brought.flatten ++ own)

mutual

def ofNode : Node → Merged
  | .scalar tag t isPlain => .scalar tag t isPlain
  | .sequence tag items => .sequence tag (ofNodes items)
  | .mapping tag entries =>
    match combine? (ofPairs entries) with
    | some es => .mapping tag es
    | none => .impossible

def ofNodes : List Node → List Merged
  | [] => []
  | n :: ns => ofNode n :: ofNodes ns

def ofPairs : List (Node × Node) → List (Merged × Merged)
  | [] => []
  | (k, v) :: es => (ofNode k, ofNode v) :: ofPairs es

end

end Merged

/-! ### Data -/

/-- A problem and how many collections are around it. -/
structure Fault where
  depth : Nat
  problem : Problem

/-- Both of two results, or the problem that is reported of theirs. -/
def both {α β : Type} (a : Except Fault α) (b : Except Fault β) : Except Fault (α × β) :=
  match a, b with
  | .ok x, .ok y => .ok (x, y)
  | .error e, .ok _ => .error e
  | .ok _, .error f => .error f
  | .error e, .error f => .error (if f.depth < e.depth then f else e)

def commonTag (name : String) : Text := commonPrefix ++ name.toList

/-- The datum of a scalar; `isKey` tells that it is the key of a mapping. -/
def scalarDatum (isKey : Bool) (tag : Option Text) (t : Text) (isPlain : Bool) :
    Except Problem Datum :=
  match tag with
  | some tag =>
    if tag = commonTag "str" then .ok (.text t)
    else if tag = commonTag "null" then .ok .null
    else .error .badValue
  | none =>
    if !isPlain then .ok (.text t)
    else do
      match ← Scalar.meaning t with
      | .datum d => .ok d
      | .merge => .error .badValue
      | .value => if isKey then .ok (.text t) else .error .badValue

/-- Whether a collection may have its tag. -/
def isFine (tag : Option Text) (name : String) : Bool := tag.all (· = commonTag name)

/-- Puts pairs into a mapping one by one. -/
def mapOf (pairs : List (Datum × Datum)) : List (Datum × Datum) :=
  pairs.foldl (fun es p => put p.1 p.2 es) []

mutual

/-- The datum of a node that has `depth` collections around it. -/
def datumOf (depth : Nat) : Merged → Except Fault Datum
  | .impossible => .error ⟨depth + 1, .badValue⟩
  | .scalar tag t isPlain => (scalarDatum false tag t isPlain).mapError (⟨depth, ·⟩)
  | .sequence tag items =>
    if isFine tag "seq" then (dataOf (depth + 1) items).map .list
    else .error ⟨depth, .badValue⟩
  | .mapping tag entries =>
    if isFine tag "map" then (pairsOf (depth + 1) entries).map fun es => .map (mapOf es)
    else .error ⟨depth, .badValue⟩

def dataOf (depth : Nat) : List Merged → Except Fault (List Datum)
  | [] => .ok []
  | n :: ns => (both (datumOf depth n) (dataOf depth ns)).map fun p => p.1 :: p.2

/-- The entries of a mapping; a collection is no key. -/
def pairsOf (depth : Nat) : List (Merged × Merged) → Except Fault (List (Datum × Datum))
  | [] => .ok []
  | (k, v) :: es =>
    let key : Except Fault Datum := match k with
      | .scalar tag t isPlain => (scalarDatum true tag t isPlain).mapError (⟨depth, ·⟩)
      | _ => .error ⟨depth, .badValue⟩
    (both (both key (datumOf depth v)) (pairsOf depth es)).map fun p => p.1 :: p.2

end

/-- The datum of a document. One without content is null. -/
def read (t : Text) : Except Problem Datum := do
  if !t.all isLegal then .error .illegalCharacter
  else match ← Reader.document? (Token.ofText t) with
    | none => .ok .null
    | some n => (datumOf 0 (.ofNode n)).mapError (·.problem)

end HeaderBindings.Datum.Yaml
