import HeaderBindings.Datum.Yaml.BlockScalar
import HeaderBindings.Datum.Yaml.Plain
import HeaderBindings.Datum.Yaml.Quoted

/-!
# Tokens

A document is cut into tokens. Indentation becomes tokens of its own: a block starts where its first
entry is indented farther than the block around it and ends where a line is indented less. A colon
makes a key of what stands before it on its line, so a place that may start a key is kept in mind
until its line ends; tokens that the colon asks for are put in front of the one at that place. When
no further token can be found, the last token tells why; it stands in front of the first place that
is still in mind, since what it starts is not known.
-/
namespace HeaderBindings.Datum.Yaml

inductive Token
  | versionDirective (major : Nat)
  | tagDirective (handle tagPrefix : Text)
  | otherDirective
  | documentStart
  | documentEnd
  | sequenceStart
  | mappingStart
  | blockEnd
  | flowSequenceStart
  | flowSequenceEnd
  | flowMappingStart
  | flowMappingEnd
  | entry
  | flowEntry
  | key
  | value
  | reference (name : Text)
  | anchor (name : Text)
  | tag (handle : Option Text) (ending : Text)
  | scalar (text : Text) (isPlain : Bool)
  | broken (problem : Problem)
deriving DecidableEq, Repr

/-- A place that may start a key. In a block it has to if it stands where the entries of the block
start. -/
structure KeyPlace where
  number : Nat
  isRequired : Bool
  index : Nat
  line : Nat
  column : Nat
deriving DecidableEq, Repr

/-- A token and those put in front of it. -/
structure Entry where
  before : List Token
  token : Token
deriving DecidableEq, Repr

/-- How far a document has been cut. The entries are given last first; the open flow collections,
last first and with the blocks at the end, each have a place for a key. -/
structure Cutting where
  cursor : Cursor
  entries : List Entry
  count : Nat
  indent : Int
  outerIndents : List Int
  flows : List (Option KeyPlace)
  blockPlace : Option KeyPlace
  mayStartKey : Bool

namespace Cutting

def start (t : Text) : Cutting := ⟨.start t, [], 0, -1, [], [], none, true⟩

def inFlow (s : Cutting) : Bool := !s.flows.isEmpty

def add (s : Cutting) (token : Token) : Cutting :=
  { s with entries := ⟨[], token⟩ :: s.entries, count := s.count + 1 }

/-- Puts tokens in front of the token with a number. -/
def addBefore (s : Cutting) (number : Nat) (tokens : List Token) : Cutting :=
  { s with entries := s.entries.modify (s.count - 1 - number) fun e =>
      { e with before := tokens ++ e.before } }

def tokens (s : Cutting) : List Token := s.entries.reverse.flatMap fun e => e.before ++ [e.token]

/-! ### Places for keys -/

def places (s : Cutting) : List KeyPlace := (s.blockPlace :: s.flows).filterMap id

/-- The place for a key in the innermost collection. -/
def place? (s : Cutting) : Option KeyPlace :=
  match s.flows with
  | [] => s.blockPlace
  | place :: _ => place

def setPlace (s : Cutting) (place : Option KeyPlace) : Cutting :=
  match s.flows with
  | [] => { s with blockPlace := place }
  | _ :: outer => { s with flows := place :: outer }

/-- A key stands on one line and has at most 1024 characters. -/
def isStale (s : Cutting) (p : KeyPlace) : Bool :=
  p.line ≠ s.cursor.line || s.cursor.index - p.index > 1024

/-- Forgets the places that can start no key any more. -/
def forgetStale (s : Cutting) : Except Problem Cutting :=
  if s.places.any fun p => s.isStale p && p.isRequired then .error .badToken
  else
    let keep (place : Option KeyPlace) : Option KeyPlace := place.filter (!s.isStale ·)
    .ok { s with blockPlace := keep s.blockPlace, flows := s.flows.map keep }

/-- Forgets the place in the innermost collection. -/
def forgetPlace (s : Cutting) : Except Problem Cutting :=
  if (s.place?.map (·.isRequired)).getD false then .error .badToken else .ok (s.setPlace none)

/-- Keeps the next token in mind as the start of a key, if it may be one. -/
def keepPlace (s : Cutting) : Except Problem Cutting :=
  if s.mayStartKey then do
    let c := s.cursor
    let isRequired := !s.inFlow && s.indent = c.column
    (← s.forgetPlace).setPlace (some ⟨s.count, isRequired, c.index, c.line, c.column⟩) |> .ok
  else .ok s

/-! ### Blocks -/

/-- The indentation of the block that goes on in a column, those around it, and how many blocks have
ended. -/
def unwound (column : Int) : Int → List Int → Int × List Int × Nat
  | indent, [] => (indent, [], 0)
  | indent, outer :: outers =>
    if indent > column then
      let (indent, outers, ended) := unwound column outer outers
      (indent, outers, ended + 1)
    else (indent, outer :: outers, 0)

/-- Ends the blocks that are indented more than a column. Within flow collections indentation does
not count. -/
def unwind (s : Cutting) (column : Int) : Cutting :=
  if s.inFlow then s
  else
    let (indent, outers, ended) := unwound column s.indent s.outerIndents
    (List.replicate ended Token.blockEnd).foldl add
      { s with indent := indent, outerIndents := outers }

/-- Starts a block if a column is to the right of the block around it, and tells whether it does. -/
def indentTo (s : Cutting) (column : Nat) : Cutting × Bool :=
  if s.indent < column then
    ({ s with indent := column, outerIndents := s.indent :: s.outerIndents }, true)
  else (s, false)

/-! ### Single tokens -/

def allowKey (s : Cutting) (b : Bool) : Cutting := { s with mayStartKey := b }

/-- Takes a token of so many characters. -/
def take (s : Cutting) (n : Nat) (token : Token) : Cutting :=
  { s.add token with cursor := s.cursor.advance n }

/-- Takes a token that has been read up to a place. -/
def takeTo (s : Cutting) (c : Cursor) (token : Token) : Cutting := { s.add token with cursor := c }

/-- Blanks, line ends and comments before a token. After a line end in a block a key may start. -/
def toToken : Nat → Cutting → Cutting
  | 0, s => s
  | fuel + 1, s =>
    let c := (s.cursor.skip (· = ' ')).skipComment
    if c.isAt isBreak then
      toToken fuel { s with cursor := c.next, mayStartKey := s.mayStartKey || !s.inFlow }
    else { s with cursor := c }

def documentMark (s : Cutting) (token : Token) : Except Problem Cutting := do
  let s ← (s.unwind (-1)).forgetPlace
  .ok ((s.allowKey false).take 3 token)

def flowStart (s : Cutting) (token : Token) : Except Problem Cutting := do
  let s ← s.keepPlace
  let s := (s.allowKey true).take 1 token
  .ok { s with flows := none :: s.flows }

def flowEnd (s : Cutting) (token : Token) : Except Problem Cutting := do
  let s ← s.forgetPlace
  .ok (({ s with flows := s.flows.tail }.allowKey false).take 1 token)

def flowEntry (s : Cutting) : Except Problem Cutting := do
  .ok ((← (s.allowKey true).forgetPlace).take 1 .flowEntry)

/-- Asks that a block may be started where the cutting is, and starts one if it has to be. -/
def startBlock (s : Cutting) (token : Token) : Except Problem Cutting :=
  if s.inFlow then .ok s
  else if !s.mayStartKey then .error .badToken
  else
    let (s, starts) := s.indentTo s.cursor.column
    .ok (if starts then s.add token else s)

def entry (s : Cutting) : Except Problem Cutting := do
  let s ← s.startBlock .sequenceStart
  .ok ((← (s.allowKey true).forgetPlace).take 1 .entry)

def keyMark (s : Cutting) : Except Problem Cutting := do
  let s ← s.startBlock .mappingStart
  .ok ((← (s.allowKey !s.inFlow).forgetPlace).take 1 .key)

/-- A colon after what may be a key makes it one. -/
def valueMark (s : Cutting) : Except Problem Cutting := do
  match s.place? with
  | some p =>
    let s := s.setPlace none
    let (s, starts) := if s.inFlow then (s, false) else s.indentTo p.column
    let s := s.addBefore p.number (if starts then [.mappingStart, .key] else [.key])
    .ok ((s.allowKey false).take 1 .value)
  | none =>
    let s ← s.startBlock .mappingStart
    .ok ((← (s.allowKey !s.inFlow).forgetPlace).take 1 .value)

def plain (s : Cutting) : Except Problem Cutting := do
  let s ← s.keepPlace
  let p := Plain.read s.inFlow (s.indent + 1).toNat s.cursor
  .ok ((s.allowKey p.isAtLineStart).takeTo p.cursor (.scalar p.text true))

def quoted (s : Cutting) : Except Problem Cutting := do
  let s ← s.keepPlace
  let (t, c) ← Quoted.read s.cursor
  .ok ((s.allowKey false).takeTo c (.scalar t false))

def blockScalar (s : Cutting) : Except Problem Cutting := do
  let s ← (s.allowKey true).forgetPlace
  let (t, c) ← BlockScalar.read (s.indent + 1).toNat s.cursor
  .ok (s.takeTo c (.scalar t false))

/-! ### Names, tags and directives -/

def isNameChar (c : Char) : Bool := c.isAlphanum || c = '-' || c = '_'

/-- What may follow the name of an anchor. -/
def endsName (c : Cursor) : Bool :=
  isGap c.rest || c.isAt "?:,]\x7d%@\x60".toList.contains

/-- An anchor, or a reference to one. -/
def named (s : Cutting) (token : Text → Token) : Except Problem Cutting := do
  let s ← s.keepPlace
  let (name, c) := s.cursor.next.span isNameChar
  if name = [] || !endsName c then .error .badToken
  else .ok ((s.allowKey false).takeTo c (token name))

def isTagChar (c : Char) : Bool := c.isAlphanum || "-;/?:@&=+$,_.!~*'()[]".toList.contains c

/-- The characters of a tag; those written by the code of their bytes are not decoded. -/
def tagText (c : Cursor) : Except Problem (Text × Cursor) :=
  match c.span fun ch => isTagChar ch || ch = '%' with
  | ([], _) => .error .badToken
  | p => .ok p

def endsTag (c : Cursor) : Bool := isGap c.rest && !c.isAt (· = '\t')

/-- A handle: an exclamation mark, or a name between two of them. -/
def handle (c : Cursor) : Except Problem (Text × Cursor) :=
  let (name, c) := c.next.span isNameChar
  if c.peek? = some '!' then .ok ('!' :: name ++ ['!'], c.next)
  else if name = [] && c.peek? = some ' ' then .ok (['!'], c)
  else .error .badToken

/-- The handle and the ending of a tag. -/
def readTag (c : Cursor) : Except Problem (Token × Cursor) := do
  let (token, c) ←
    if c.next.peek? = some '<' then do
      let (t, c) ← tagText (c.advance 2)
      if c.peek? = some '>' then .ok (Token.tag none t, c.next) else .error .badToken
    else if isGap c.next.rest then .ok (.tag none ['!'], c.next)
    else
      let whole := c.next.rest.takeWhile fun ch => ch ≠ ' ' && !isBreak ch
      if whole.contains '!' then do
        let (h, c) ← handle c
        let (t, c) ← tagText c
        .ok (.tag (some h) t, c)
      else do
        let (t, c) ← tagText c.next
        .ok (.tag (some ['!']) t, c)
  if endsTag c then .ok (token, c) else .error .badToken

def tag (s : Cutting) : Except Problem Cutting := do
  let s ← s.keepPlace
  let (token, c) ← readTag s.cursor
  .ok ((s.allowKey false).takeTo c token)

def skipSpaces (c : Cursor) : Cursor := c.skip (· = ' ')

/-- A number of a version, without its digits beyond those of a single one being told apart. -/
def versionNumber (c : Cursor) : Except Problem (Nat × Cursor) :=
  match c.span Char.isDigit with
  | ([], _) => .error .badToken
  | (ds, c) => .ok (Text.ofDigits 10 (ds.map fun d => d.toNat - 48), c)

/-- The directive after its percent sign. -/
def readDirective (c : Cursor) : Except Problem (Token × Cursor) := do
  let (name, c) := c.span isNameChar
  if name = [] || !endsTag c then .error .badToken
  else
    let (token, c) ←
      if name = "YAML".toList then do
        let (major, c) ← versionNumber (skipSpaces c)
        if c.peek? ≠ some '.' then .error .badToken
        else do
          let (_, c) ← versionNumber c.next
          if endsTag c then .ok (Token.versionDirective major, c) else .error .badToken
      else if name = "TAG".toList then do
        let c := skipSpaces c
        if c.peek? ≠ some '!' then .error .badToken
        else do
          let (h, c) ← handle c
          if c.peek? ≠ some ' ' then .error .badToken
          else do
            let (p, c) ← tagText (skipSpaces c)
            if endsTag c then .ok (.tagDirective h p, c) else .error .badToken
      else .ok (.otherDirective, c.skip (!isBreak ·))
    let c := (skipSpaces c).skipComment
    if c.rest.isEmpty then .ok (token, c)
    else if c.isAt isBreak then .ok (token, c.next)
    else .error .badToken

def directive (s : Cutting) : Except Problem Cutting := do
  let s ← (s.unwind (-1)).forgetPlace
  let (token, c) ← readDirective s.cursor.next
  .ok ((s.allowKey false).takeTo c token)

/-! ### The next token -/

/-- Whether a character starts a plain scalar. -/
def startsPlain (inFlow : Bool) (c : Char) (r : Text) : Bool :=
  !(isBlank c || isBreak c || "-?:,[]\x7b\x7d#&*!|>'\"%@\x60".toList.contains c) ||
    (!isGap r && (c = '-' || (!inFlow && (c = '?' || c = ':'))))

/-- Cuts the next token off; at the end of the document there is none. A place for a key that is
given up after a token is a problem of that token. -/
def step (s : Cutting) : Except Problem (Cutting × Bool) := do
  let s := s.toToken (s.cursor.rest.length + 1)
  let s ← s.forgetStale
  let s := s.unwind s.cursor.column
  let atStart := s.cursor.column = 0
  match s.cursor.rest with
  | [] => .ok (← (s.unwind (-1)).forgetPlace, false)
  | c :: r =>
    let isWord := isGap r
    let next ←
      if c = '%' && atStart then s.directive
      else if atStart && isDocumentMark '-' (c :: r) then s.documentMark .documentStart
      else if atStart && isDocumentMark '.' (c :: r) then s.documentMark .documentEnd
      else if c = '[' then s.flowStart .flowSequenceStart
      else if c = '\x7b' then s.flowStart .flowMappingStart
      else if c = ']' then s.flowEnd .flowSequenceEnd
      else if c = '\x7d' then s.flowEnd .flowMappingEnd
      else if c = ',' then s.flowEntry
      else if c = '-' && isWord then s.entry
      else if c = '?' && (s.inFlow || isWord) then s.keyMark
      else if c = ':' && (s.inFlow || isWord) then s.valueMark
      else if c = '*' then s.named .reference
      else if c = '&' then s.named .anchor
      else if c = '!' then s.tag
      else if (c = '|' || c = '>') && !s.inFlow then s.blockScalar
      else if c = '\'' || c = '"' then s.quoted
      else if startsPlain s.inFlow c r then s.plain
      else .error .badToken
    .ok (← next.forgetStale, true)

/-- The number of the first token of which it is not known what it starts. -/
def firstUnsettled (s : Cutting) : Nat := s.places.foldl (fun n p => min n p.number) s.count

/-- The tokens before a problem, and the problem. -/
def tokensBefore (s : Cutting) (problem : Problem) : List Token :=
  let settled := s.entries.drop (s.count - s.firstUnsettled)
  { s with entries := settled }.tokens ++ [.broken problem]

/-- All tokens from a place on, after those that have been cut off. -/
def run : Nat → Cutting → List Token
  | 0, s => s.tokens
  | fuel + 1, s =>
    match s.step with
    | .error problem => s.tokensBefore problem
    | .ok (s, true) => s.run fuel
    | .ok (s, false) => s.tokens

end Cutting

/-- The tokens of a document. A byte order mark in front of it does not count. -/
def Token.ofText (t : Text) : List Token :=
  let s := Cutting.start t
  let s := if t.head? = some '\uFEFF' then { s with cursor := s.cursor.next } else s
  s.run (t.length + 2)

end HeaderBindings.Datum.Yaml
