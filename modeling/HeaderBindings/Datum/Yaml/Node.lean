import HeaderBindings.Datum.Yaml.Token

/-!
# Nodes

The tokens of a document form a tree of scalars, sequences and mappings. A value that is missing
where one may stand is an empty plain scalar. A reference stands for the node that was anchored by
its name before. Collections stand inside one another up to a limit.
-/
namespace HeaderBindings.Datum.Yaml

/-- A node with its tag, if it has one. -/
inductive Node
  | scalar (tag : Option Text) (text : Text) (isPlain : Bool)
  | sequence (tag : Option Text) (items : List Node)
  | mapping (tag : Option Text) (entries : List (Node × Node))
deriving Repr

def Node.empty : Node := .scalar none [] true

/-- What a document has said before a place: its tag handles and its anchored nodes. -/
structure Surroundings where
  handles : List (Text × Text)
  anchored : List (Text × Node)

/-- Tags of this beginning are known by every reader. -/
def commonPrefix : Text := "tag:yaml.org,2002:".toList

def Surroundings.standard : Surroundings := ⟨[(['!'], ['!']), (['!', '!'], commonPrefix)], []⟩

/-- The tokens that are left, what has been said before them, and how many collections may still
stand inside one another. -/
structure Reading where
  tokens : List Token
  context : Surroundings
  room : Nat

/-- So many collections may stand inside one another. -/
def Reading.maxRoom : Nat := 488

/-- A reader of a part of a document. -/
abbrev Reader (α : Type) := Reading → Except Problem (α × Reading)

namespace Reader

/-- The next token, if there is one that could be read. -/
def peek (r : Reading) : Except Problem (Option Token) :=
  match r.tokens with
  | [] => .ok none
  | .broken problem :: _ => .error problem
  | t :: _ => .ok (some t)

def drop (r : Reading) : Reading := { r with tokens := r.tokens.tail }

/-- Whether the next token is one of some. -/
def isNext (r : Reading) (tokens : List Token) : Except Problem Bool :=
  (peek r).map fun t => (t.map tokens.contains).getD false

/-- What stands in front of a node: an anchor and a tag, in either order. -/
structure Properties where
  anchor : Option Text
  tag : Option (Option Text × Text)

def anchor? (r : Reading) : Except Problem (Option Text × Reading) := do
  match ← peek r with
  | some (.anchor name) => .ok (some name, drop r)
  | _ => .ok (none, r)

def tag? (r : Reading) : Except Problem (Option (Option Text × Text) × Reading) := do
  match ← peek r with
  | some (.tag handle ending) => .ok (some (handle, ending), drop r)
  | _ => .ok (none, r)

def properties : Reader Properties := fun r => do
  let (anchor, r) ← anchor? r
  let (tag, r) ← tag? r
  if anchor.isSome then .ok (⟨anchor, tag⟩, r)
  else if tag.isNone then .ok (⟨none, none⟩, r)
  else
    let (anchor, r) ← anchor? r
    .ok (⟨anchor, tag⟩, r)

/-- The whole tag of a handle and an ending. -/
def wholeTag (s : Surroundings) : Option (Option Text × Text) → Except Problem (Option Text)
  | none => .ok none
  | some (none, t) => .ok (some t)
  | some (some handle, t) =>
    match s.handles.find? (·.1 = handle) with
    | some h => .ok (some (h.2 ++ t))
    | none => .error .misplacedToken

/-- A tag of one exclamation mark says that a node has the tag of its kind. -/
def ownTag (tag : Option Text) : Option Text := tag.filter (· ≠ ['!'])

/-- Keeps a node under the name of its anchor; no name is given twice. -/
def keep (anchor : Option Text) (node : Node) (r : Reading) : Except Problem (Node × Reading) :=
  match anchor with
  | none => .ok (node, r)
  | some name =>
    .ok (node, { r with context := { r.context with anchored := (name, node) :: r.context.anchored } })

/-- Reads a part that stands inside a collection. -/
def inside {α : Type} (read : Reader α) : Reader α := fun r =>
  match r.room with
  | 0 => .error .tooDeep
  | room + 1 => (read { r with room := room }).map fun p => (p.1, { p.2 with room := r.room })

def isAnchored (s : Surroundings) (name : Text) : Bool := s.anchored.any (·.1 = name)

/-- Which nodes may stand at a place. -/
inductive Place
  | flow
  | block
  | blockOrBareSequence
deriving DecidableEq, Repr

def Place.isBlock (p : Place) : Bool := p ≠ .flow

mutual

/-- A node; `fuel` bounds the number of tokens. -/
def node (place : Place) : Nat → Reader Node
  | 0, _ => .error .misplacedToken
  | fuel + 1, r => do
    match ← peek r with
    | some (.reference name) =>
      match r.context.anchored.find? (·.1 = name) with
      | some a => .ok (a.2, drop r)
      | none => .error .badReference
    | _ =>
      let (p, r) ← properties r
      let tag ← wholeTag r.context p.tag
      let own := ownTag tag
      let token ← peek r
      if (p.anchor.map (isAnchored r.context)).getD false then
        .error .badReference
      else
      match token with
      | some (.scalar t isPlain) =>
        keep p.anchor (.scalar own t (if tag.isNone then isPlain else own.isNone)) (drop r)
      | some .flowSequenceStart => do
        let (items, r) ← inside (flowItems true fuel) (drop r)
        keep p.anchor (.sequence own items) r
      | some .flowMappingStart => do
        let (entries, r) ← inside (flowEntries true fuel) (drop r)
        keep p.anchor (.mapping own entries) r
      | token =>
        if token = some .entry ∧ place = .blockOrBareSequence then do
          let (items, r) ← inside (bareItems fuel) r
          keep p.anchor (.sequence own items) r
        else if token = some .sequenceStart ∧ place.isBlock then do
          let (items, r) ← inside (blockItems fuel) (drop r)
          keep p.anchor (.sequence own items) r
        else if token = some .mappingStart ∧ place.isBlock then do
          let (entries, r) ← inside (blockEntries fuel) (drop r)
          keep p.anchor (.mapping own entries) r
        else if p.anchor.isSome || tag.isSome then
          keep p.anchor (.scalar own [] own.isNone) r
        else .error .misplacedToken

/-- A node, or the empty one before one of some tokens. -/
def nodeUnless (ends : List Token) (place : Place) : Nat → Reader Node
  | 0, _ => .error .misplacedToken
  | fuel + 1, r => do
    if ← isNext r ends then .ok (.empty, r) else node place fuel r

/-- The items of a block sequence up to its end. -/
def blockItems : Nat → Reader (List Node)
  | 0, _ => .error .misplacedToken
  | fuel + 1, r => do
    match ← peek r with
    | some .entry =>
      let (item, r) ← nodeUnless [.entry, .blockEnd] .block fuel (drop r)
      let (items, r) ← blockItems fuel r
      .ok (item :: items, r)
    | some .blockEnd => .ok ([], drop r)
    | _ => .error .misplacedToken

/-- The items of a sequence that is indented no farther than its key. -/
def bareItems : Nat → Reader (List Node)
  | 0, _ => .error .misplacedToken
  | fuel + 1, r => do
    match ← peek r with
    | some .entry =>
      let (item, r) ← nodeUnless [.entry, .key, .value, .blockEnd] .block fuel (drop r)
      let (items, r) ← bareItems fuel r
      .ok (item :: items, r)
    | _ => .ok ([], r)

/-- The entries of a block mapping up to its end. -/
def blockEntries : Nat → Reader (List (Node × Node))
  | 0, _ => .error .misplacedToken
  | fuel + 1, r => do
    match ← peek r with
    | some .key =>
      let ends := [.key, .value, .blockEnd]
      let (key, r) ← nodeUnless ends .blockOrBareSequence fuel (drop r)
      let (value, r) ← optionalValue ends .blockOrBareSequence fuel r
      let (entries, r) ← blockEntries fuel r
      .ok ((key, value) :: entries, r)
    | some .blockEnd => .ok ([], drop r)
    | _ => .error .misplacedToken

/-- The node after a colon, or the empty one if there is no colon. -/
def optionalValue (ends : List Token) (place : Place) : Nat → Reader Node
  | 0, _ => .error .misplacedToken
  | fuel + 1, r => do
    if ← isNext r [.value] then nodeUnless ends place fuel (drop r) else .ok (.empty, r)

/-- The items of a flow sequence up to its end. A pair without braces is a mapping of its own. -/
def flowItems (isFirst : Bool) : Nat → Reader (List Node)
  | 0, _ => .error .misplacedToken
  | fuel + 1, r => do
    if ← isNext r [.flowSequenceEnd] then .ok ([], drop r)
    else
      let r ← afterComma isFirst r
      match ← peek r with
      | some .flowSequenceEnd => .ok ([], drop r)
      | some .key =>
        let (key, r) ← nodeUnless [.value, .flowEntry, .flowSequenceEnd] .flow fuel (drop r)
        let (value, r) ← optionalValue [.flowEntry, .flowSequenceEnd] .flow fuel r
        let (items, r) ← flowItems false fuel r
        .ok (.mapping none [(key, value)] :: items, r)
      | _ =>
        let (item, r) ← node .flow fuel r
        let (items, r) ← flowItems false fuel r
        .ok (item :: items, r)

/-- The entries of a flow mapping up to its end. -/
def flowEntries (isFirst : Bool) : Nat → Reader (List (Node × Node))
  | 0, _ => .error .misplacedToken
  | fuel + 1, r => do
    if ← isNext r [.flowMappingEnd] then .ok ([], drop r)
    else
      let r ← afterComma isFirst r
      match ← peek r with
      | some .flowMappingEnd => .ok ([], drop r)
      | some .key =>
        let (key, r) ← nodeUnless [.value, .flowEntry, .flowMappingEnd] .flow fuel (drop r)
        let (value, r) ← optionalValue [.flowEntry, .flowMappingEnd] .flow fuel r
        let (entries, r) ← flowEntries false fuel r
        .ok ((key, value) :: entries, r)
      | _ =>
        let (key, r) ← node .flow fuel r
        let (entries, r) ← flowEntries false fuel r
        .ok ((key, .empty) :: entries, r)

/-- What follows the comma before an item that is not the first. -/
def afterComma (isFirst : Bool) (r : Reading) : Except Problem Reading := do
  if isFirst then .ok r
  else if ← isNext r [.flowEntry] then .ok (drop r)
  else .error .misplacedToken

end

/-- The directives before a document. There is at most one of a version, whose first number is one,
and at most one for a handle. -/
def directives (hasVersion : Bool) (handles : List (Text × Text)) :
    List Token → Except Problem (List (Text × Text) × List Token)
  | .broken problem :: _ => .error problem
  | .versionDirective major :: ts =>
    if hasVersion || major ≠ 1 then .error .misplacedToken else directives true handles ts
  | .tagDirective handle tagPrefix :: ts =>
    if handles.any (·.1 = handle) then .error .misplacedToken
    else directives hasVersion ((handle, tagPrefix) :: handles) ts
  | .otherDirective :: ts => directives hasVersion handles ts
  | ts => .ok (handles, ts)

def isDirective : Token → Bool
  | .versionDirective _ => true
  | .tagDirective .. => true
  | .otherDirective => true
  | _ => false

/-- The end of the only document: another one is a problem of its own. -/
def finish : List Token → Except Problem Unit
  | [] => .ok ()
  | .broken problem :: _ => .error problem
  | .documentEnd :: ts => finish ts
  | ts => do
    let (_, ts) ← directives false [] ts
    match ts with
    | .broken problem :: _ => .error problem
    | .documentStart :: _ => .error .badReference
    | _ => .error .misplacedToken

/-- The node of a document whose directives and start have been passed. -/
def content (r : Reading) : Except Problem (Node × Reading) := do
  match ← peek r with
  | none => .ok (.empty, r)
  | some .documentStart => .ok (.empty, r)
  | some .documentEnd => .ok (.empty, r)
  | some t => if isDirective t then .ok (.empty, r) else node .block (4 * r.tokens.length + 4) r

/-- The node of the only document, if there is one. -/
def document? (tokens : List Token) : Except Problem (Option Node) := do
  match tokens with
  | [] => .ok none
  | .broken problem :: _ => .error problem
  | t :: _ =>
    let (n, r) ←
      if t = .documentStart || isDirective t then do
        let (handles, ts) ← directives false [] tokens
        match ts with
        | .broken problem :: _ => .error problem
        | .documentStart :: ts =>
          let known := Surroundings.standard.handles.filter fun h => !handles.any (·.1 = h.1)
          content ⟨ts, ⟨handles ++ known, []⟩, Reading.maxRoom⟩
        | _ => .error .misplacedToken
      else node .block (4 * tokens.length + 4) ⟨tokens, .standard, Reading.maxRoom⟩
    finish r.tokens
    .ok (some n)

end Reader
end HeaderBindings.Datum.Yaml
