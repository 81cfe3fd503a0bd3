import HeaderBindings.Constant.Node
import HeaderBindings.Constant.Source

/-!
# The expression grammar

Every non-terminal is a `Goal`, and `Grammar.rule` says how a goal is read in terms of the goals it
calls. `Grammar.read` ties the knot with a bound on the depth of calls. A binary operator belongs to
one of six levels and associates to the left; a sign binds tighter than all of them. Forms without a
value are read just as far as is needed to tell where they end.
-/
namespace HeaderBindings.Constant

/-- What may stand between the commas of a list. -/
inductive Item
  | plain | starred | named
deriving DecidableEq, Repr

/-- How far the arguments of a call have come. -/
inductive ArgumentPhase
  | positional | keyword | unpacked
deriving DecidableEq, Repr

/-- How far the parameters of a function expression have come. -/
inductive ParameterPhase
  | start | leading | afterSlash | bareStar | keywordOnly
deriving DecidableEq, Repr

inductive Goal
  | expressions | expression | named
  | item (kind : Item) | items (kind : Item) (bindable : Bool)
  | disjunction | moreDisjuncts | conjunction | moreConjuncts
  | inversion | comparison | moreComparands
  | binary (level : Nat) | binaryTail (level : Nat) (left : Node)
  | factor | power | primary | primaryTail (node : Node) | atom
  | yielded | comprehension | conditions | targets
  | called | arguments (phase : ArgumentPhase) | subscripts | entries
  | parameters (phase : ParameterPhase) (defaults : Bool)

namespace Grammar

abbrev Reading := Option (Node × List Token)

def skip? (s : Symbol) : List Token → Option (List Token)
  | .symbol t :: r => if t = s then some r else none
  | _ => none

def skipWord? (w : String) : List Token → Option (List Token)
  | .word v :: r => if v = w.toList then some r else none
  | _ => none

def nextIs (s : Symbol) (ts : List Token) : Bool := (skip? s ts).isSome

def nextIsWord (w : String) (ts : List Token) : Bool := (skipWord? w ts).isSome

def reservedWords : List String := [
    "False", "None", "True", "and", "as", "assert", "async", "await", "break", "class", "continue",
    "def", "del", "elif", "else", "except", "finally", "for", "from", "global", "if", "import",
    "in", "is", "lambda", "nonlocal", "not", "or", "pass", "raise", "return", "try", "while",
    "with", "yield"]

def isReserved (w : Text) : Bool := reservedWords.any (·.toList = w)

/-- A word that may be used as a name. -/
def readName? : List Token → Option (Text × List Token)
  | .word w :: r => if isReserved w then none else some (w, r)
  | _ => none

/-- What follows a name and `:=`. -/
def skipBinding? (ts : List Token) : Option (List Token) :=
  (readName? ts).bind fun p => skip? .walrus p.2

def startsNamed (ts : List Token) : Bool := (skipBinding? ts).isSome

def startsComprehension (ts : List Token) : Bool := nextIsWord "for" ts || nextIsWord "async" ts

/-- The level of a binary operator, and the operator if it has a value. Level 0 binds loosest. -/
def binarySymbol? : Symbol → Option (Nat × Option BinaryOp)
  | .bar => some (0, some .bitOr)
  | .caret => some (1, some .bitXor)
  | .ampersand => some (2, some .bitAnd)
  | .shiftLeft => some (3, some .shiftLeft)
  | .shiftRight => some (3, some .shiftRight)
  | .plus => some (4, some .add)
  | .minus => some (4, some .sub)
  | .star => some (5, some .mul)
  | .slash => some (5, some .div)
  | .percent => some (5, some .mod)
  | .doubleSlash => some (5, none)
  | .at => some (5, none)
  | _ => none

def binaryLevels : Nat := 6

def unarySymbol? : Symbol → Option UnaryOp
  | .plus => some .plus
  | .minus => some .minus
  | .tilde => some .complement
  | _ => none

/-- What follows a comparison operator. -/
def skipComparison? : List Token → Option (List Token)
  | .symbol s :: r =>
    if [.equal, .notEqual, .less, .greater, .lessEqual, .greaterEqual].contains s then some r
    else none
  | ts =>
    match skipWord? "is" ts with
    | some r => some ((skipWord? "not" r).getD r)
    | none => (skipWord? "in" ts).orElse fun _ => (skipWord? "not" ts).bind (skipWord? "in")

section
variable (self : Goal → List Token → Reading)

def expressions (ts : List Token) : Reading := do
  let (n, r) ← self .expression ts
  if nextIs .comma r then do
    let (m, r) ← self (.items .plain false) r
    some (.refused .tuple false [n, m], r)
  else some (n, r)

/-- A conditional expression, a function expression, or a disjunction. -/
def expression (ts : List Token) : Reading :=
  match skipWord? "lambda" ts with
  | some r => do
    let (m, r) ← self (.parameters .start false) r
    let r ← skip? .colon r
    let (n, r) ← self .expression r
    some (.refused .lambda false [m, n], r)
  | none => do
    let (n, r) ← self .disjunction ts
    match skipWord? "if" r with
    | none => some (n, r)
    | some r => do
      let (m, r) ← self .disjunction r
      let r ← skipWord? "else" r
      let (l, r) ← self .expression r
      some (.refused .ifExp false [n, m, l], r)

/-- A name with `:=` and an expression, or an expression. -/
def named (ts : List Token) : Reading :=
  match skipBinding? ts with
  | some r => do
    let (n, r) ← self .expression r
    some (.refused .namedExpr false [n], r)
  | none => self .expression ts

def item (kind : Item) (ts : List Token) : Reading :=
  match kind, skip? .star ts with
  | .plain, _ => self .expression ts
  | _, some r => do
    let (n, r) ← self (.binary 0) r
    some (.refused .starred n.bindable [n], r)
  | .starred, none => self .expression ts
  | .named, none => self .named ts

/-- The items after an item; a comma may stand last. -/
def items (kind : Item) (bindable : Bool) (ts : List Token) : Reading :=
  match skip? .comma ts with
  | none => some (.parts bindable [], ts)
  | some r =>
    match self (.item kind) r with
    | none => some (.parts bindable [], r)
    | some (n, r) => do
      let (m, r) ← self (.items kind (bindable && n.bindable)) r
      some (.parts m.bindable [n, m], r)

/-- Operands of one level joined by a word. -/
def joined (word : String) (operand more : Goal) (ts : List Token) : Reading := do
  let (n, r) ← self operand ts
  if nextIsWord word r then do
    let (m, r) ← self more r
    some (.refused .boolOp false [n, m], r)
  else some (n, r)

/-- The operands after the first one. -/
def moreJoined (word : String) (operand more : Goal) (ts : List Token) : Reading :=
  match skipWord? word ts with
  | none => some (.parts false [], ts)
  | some r => do
    let (n, r) ← self operand r
    let (m, r) ← self more r
    some (.parts false [n, m], r)

def inversion (ts : List Token) : Reading :=
  match skipWord? "not" ts with
  | some r => do
    let (n, r) ← self .inversion r
    some (.refused .unaryOp false [n], r)
  | none => self .comparison ts

def comparison (ts : List Token) : Reading := do
  let (n, r) ← self (.binary 0) ts
  if (skipComparison? r).isSome then do
    let (m, r) ← self .moreComparands r
    some (.refused .compare false [n, m], r)
  else some (n, r)

/-- The comparison operators and operands after the first operand. -/
def moreComparands (ts : List Token) : Reading :=
  match skipComparison? ts with
  | none => some (.parts false [], ts)
  | some r => do
    let (n, r) ← self (.binary 0) r
    let (m, r) ← self .moreComparands r
    some (.parts false [n, m], r)

def binary (level : Nat) (ts : List Token) : Reading :=
  if level < binaryLevels then do
    let (n, r) ← self (.binary (level + 1)) ts
    self (.binaryTail level n) r
  else self .factor ts

def combine (op : Option BinaryOp) (left right : Expr) : Expr :=
  match op with
  | some op => .binary op left right
  | none => .refused .binOp

/-- The operators of one level after a left operand. -/
def binaryTail (level : Nat) (left : Node) (ts : List Token) : Reading :=
  match ts with
  | .symbol s :: r =>
    match binarySymbol? s with
    | some (l, op) =>
      if l = level then do
        let (n, r) ← self (.binary (level + 1)) r
        self (.binaryTail level (.around (combine op left.expr n.expr) [left, n])) r
      else some (left, ts)
    | none => some (left, ts)
  | _ => some (left, ts)

def factor (ts : List Token) : Reading :=
  match ts with
  | .symbol s :: r =>
    match unarySymbol? s with
    | some op => do
      let (n, r) ← self .factor r
      some (.around (.unary op n.expr) [n], r)
    | none => self .power ts
  | _ => self .power ts

/-- A power, whose exponent may have a sign; an awaited primary; or a primary. -/
def power (ts : List Token) : Reading := do
  let (n, r) ← match skipWord? "await" ts with
    | some r => (self .primary r).map fun p => (.refused .await false [p.1], p.2)
    | none => self .primary ts
  match skip? .doubleStar r with
  | none => some (n, r)
  | some r => do
    let (m, r) ← self .factor r
    some (.refused .binOp false [n, m], r)

def primary (ts : List Token) : Reading := do
  let (n, r) ← self .atom ts
  self (.primaryTail n) r

/-- Attributes, calls and subscripts after a primary. -/
def primaryTail (node : Node) (ts : List Token) : Reading :=
  match ts with
  | .symbol .dot :: r => do
    let (_, r) ← readName? r
    self (.primaryTail (.refused .attribute true [node])) r
  | .symbol .openParen :: r => do
    let (n, r) ← self .called r
    let r ← skip? .closeParen r
    self (.primaryTail (.refused .call false [node, n])) r
  | .symbol .openBracket :: r => do
    let (n, r) ← self .subscripts r
    let r ← skip? .closeBracket r
    self (.primaryTail (.refused .subscript true [node, n])) r
  | _ => some (node, ts)

/-! ### Atoms -/

def isStarred (n : Node) : Bool :=
  match n.expr with
  | .refused .starred => true
  | _ => false

/-- After an opening parenthesis: a tuple, a generator, or an expression in parentheses. -/
def parenthesized (ts : List Token) : Reading :=
  match skip? .closeParen ts with
  | some r => some (.refused .tuple true [], r)
  | none =>
    if nextIsWord "yield" ts then do
      let (n, r) ← self .yielded ts
      let r ← skip? .closeParen r
      some (n, r)
    else do
      let (n, r) ← self (.item .named) ts
      if nextIs .comma r then do
        let (m, r) ← self (.items .named n.bindable) r
        let r ← skip? .closeParen r
        some (.refused .tuple m.bindable [n, m], r)
      else if isStarred n then none
      else if startsComprehension r then do
        let (m, r) ← self .comprehension r
        let r ← skip? .closeParen r
        some (.refused .generatorExp false [n, m], r)
      else do
        let r ← skip? .closeParen r
        some (n, r)

/-- After an opening bracket. -/
def bracketed (ts : List Token) : Reading :=
  match skip? .closeBracket ts with
  | some r => some (.refused .list true [], r)
  | none => do
    let (n, r) ← self (.item .named) ts
    if !isStarred n && startsComprehension r then do
      let (m, r) ← self .comprehension r
      let r ← skip? .closeBracket r
      some (.refused .listComp false [n, m], r)
    else do
      let (m, r) ← self (.items .named n.bindable) r
      let r ← skip? .closeBracket r
      some (.refused .list m.bindable [n, m], r)

/-- A key with a colon and a value. -/
def keyValue (ts : List Token) : Reading := do
  let (n, r) ← self .expression ts
  let r ← skip? .colon r
  let (m, r) ← self .expression r
  some (.parts false [n, m], r)

/-- The entries of a mapping; a comma may stand last. -/
def entries (ts : List Token) : Reading := do
  let (n, r) ← match skip? .doubleStar ts with
    | some r => self (.binary 0) r
    | none => keyValue self ts
  match skip? .comma r with
  | none => some (n, r)
  | some r =>
    if nextIs .closeBrace r then some (n, r)
    else do
      let (m, r) ← self .entries r
      some (.parts false [n, m], r)

/-- After the first key and its value: a comprehension or more entries. -/
def mappingTail (first : Node) (ts : List Token) : Reading :=
  if startsComprehension ts then do
    let (m, r) ← self .comprehension ts
    some (.refused .dictComp false [first, m], r)
  else match skip? .comma ts with
    | none => some (.refused .dict false [first], ts)
    | some r =>
      if nextIs .closeBrace r then some (.refused .dict false [first], r)
      else do
        let (m, r) ← self .entries r
        some (.refused .dict false [first, m], r)

/-- After the first element of a set that is no mapping. -/
def setTail (first : Node) (ts : List Token) : Reading :=
  if !isStarred first && startsComprehension ts then do
    let (m, r) ← self .comprehension ts
    some (.refused .setComp false [first, m], r)
  else do
    let (m, r) ← self (.items .named false) ts
    some (.refused .set false [first, m], r)

/-- After an opening brace. -/
def braced (ts : List Token) : Reading := do
  let (n, r) ←
    if nextIs .closeBrace ts then some (.refused .dict false [], ts)
    else if nextIs .doubleStar ts then
      (self .entries ts).map fun p => (.refused .dict false [p.1], p.2)
    else do
      let (n, r) ← self (.item .named) ts
      match skip? .colon r with
      | none => setTail self n r
      | some r =>
        if isStarred n || startsNamed ts then none
        else do
          let (m, r) ← self .expression r
          mappingTail self (.parts false [n, m]) r
  let r ← skip? .closeBrace r
  some (n, r)

/-- The string literals at the start, and the tokens after them. -/
def splitStrings : List Token → List StringToken × List Token
  | .string s :: r => (s :: (splitStrings r).1, (splitStrings r).2)
  | ts => ([], ts)

def StringToken.isBytes : StringToken → Bool
  | .bytes => true
  | _ => false

/-- The expressions of some sources, each of which must be fit to stand in parentheses. -/
def readSources? : List Text → Option (List Node)
  | [] => some []
  | source :: rest =>
    match self .atom (tokens ('(' :: source ++ [')'])) with
    | some (n, []) => (readSources? rest).map (n :: ·)
    | _ => none

/-- Neighbouring strings form one; bytes do not mix with text. -/
def strings (ts : List Token) : Reading :=
  let (parts, r) := splitStrings ts
  if parts.any StringToken.isBytes && !parts.all StringToken.isBytes then none
  else
    let formatted := parts.filterMap fun
      | .formatted sources => some sources
      | _ => none
    if formatted = [] then some (.refused .constant false [], r)
    else do
      let ns ← readSources? self formatted.flatten
      some (.refused .joinedStr false [.parts false ns], r)

def atom (ts : List Token) : Reading :=
  match ts with
  | .int n :: r => some (.around (.int n) [], r)
  | .float x :: r => some (.around (.float x) [], r)
  | .imaginary :: r => some (.refused .constant false [], r)
  | .string _ :: _ => strings self ts
  | .symbol .ellipsis :: r => some (.refused .constant false [], r)
  | .symbol .openParen :: r => parenthesized self r
  | .symbol .openBracket :: r => bracketed self r
  | .symbol .openBrace :: r => braced self r
  | .word w :: r =>
    if ["True", "False", "None"].any (·.toList = w) then some (.refused .constant false [], r)
    else if isReserved w then none
    else some (.refused .name true [], r)
  | _ => none

/-! ### Parts of forms without a value -/

def yielded (ts : List Token) : Reading := do
  let r ← skipWord? "yield" ts
  match skipWord? "from" r with
  | some r => do
    let (n, r) ← self .expression r
    some (.refused .yieldFrom false [n], r)
  | none =>
    if nextIs .closeParen r then some (.refused .yield false [], r)
    else do
      let (n, r) ← self (.item .starred) r
      if nextIs .comma r then do
        let (m, r) ← self (.items .starred false) r
        some (.refused .yield false [.refused .tuple false [n, m]], r)
      else some (.refused .yield false [n], r)

def target (ts : List Token) : Reading := do
  let (n, r) ← self .primary ((skip? .star ts).getD ts)
  if n.bindable then some (n, r) else none

def targets (ts : List Token) : Reading := do
  let (n, r) ← target self ts
  match skip? .comma r with
  | none => some (n, r)
  | some r =>
    if nextIsWord "in" r then some (n, r)
    else do
      let (m, r) ← self .targets r
      some (.parts false [n, m], r)

def conditions (ts : List Token) : Reading :=
  match skipWord? "if" ts with
  | none => some (.parts false [], ts)
  | some r => do
    let (n, r) ← self .disjunction r
    let (m, r) ← self .conditions r
    some (.parts false [n, m], r)

/-- One or more clauses. -/
def comprehension (ts : List Token) : Reading := do
  let r ← skipWord? "for" ((skipWord? "async" ts).getD ts)
  let (t, r) ← self .targets r
  let r ← skipWord? "in" r
  let (n, r) ← self .disjunction r
  let (c, r) ← self .conditions r
  let clause : Node := .refused .generatorExp false [t, n, c]
  if startsComprehension r then do
    let (m, r) ← self .comprehension r
    some (.parts false [clause, m], r)
  else some (clause, r)

/-- One argument of a call, and how far the arguments have come with it. -/
def argument (phase : ArgumentPhase) (ts : List Token) :
    Option (ArgumentPhase × Node × List Token) :=
  match skip? .star ts, skip? .doubleStar ts, (readName? ts).bind fun p => skip? .assign p.2 with
  | some r, _, _ =>
    if phase = .unpacked then none
    else (self .expression r).map fun p => (phase, .refused .starred false [p.1], p.2)
  | _, some r, _ => (self .expression r).map fun p => (.unpacked, .refused .call false [p.1], p.2)
  | _, _, some r =>
    (self .expression r).map fun p =>
      (if phase = .unpacked then .unpacked else .keyword, .refused .call false [p.1], p.2)
  | none, none, none =>
    if phase ≠ .positional then none
    else (self .named ts).map fun p => (.positional, p)

/-- What follows an argument: a comma and more arguments, or the closing parenthesis. -/
def nextArgument (phase : ArgumentPhase) (n : Node) (ts : List Token) : Reading :=
  match skip? .comma ts with
  | none => some (n, ts)
  | some r => do
    let (m, r) ← self (.arguments phase) r
    some (.parts false [n, m], r)

/-- The arguments up to the closing parenthesis; a comma may stand last. -/
def arguments (phase : ArgumentPhase) (ts : List Token) : Reading :=
  if nextIs .closeParen ts then some (.parts false [], ts)
  else do
    let (next, n, r) ← argument self phase ts
    nextArgument self next n r

/-- What stands in the parentheses of a call: arguments, or a generator without parentheses of its
own, which has no argument beside it. -/
def called (ts : List Token) : Reading :=
  if nextIs .closeParen ts then some (.parts false [], ts)
  else do
    let (next, n, r) ← argument self .positional ts
    if next = .positional && !isStarred n && startsComprehension r then do
      let (m, r) ← self .comprehension r
      some (.refused .generatorExp false [n, m], r)
    else nextArgument self next n r

/-- An optional bound of a slice. -/
def bound (ts : List Token) : Reading :=
  if nextIs .colon ts || nextIs .comma ts || nextIs .closeBracket ts then some (.parts false [], ts)
  else self .expression ts

/-- What follows the first colon of a slice. -/
def sliceTail (start : Node) (ts : List Token) : Reading := do
  let (n, r) ← bound self ts
  match skip? .colon r with
  | none => some (.refused .subscript false [start, n], r)
  | some r => do
    let (m, r) ← bound self r
    some (.refused .subscript false [start, n, m], r)

def subscript (ts : List Token) : Reading :=
  match skip? .colon ts, skip? .star ts with
  | some r, _ => sliceTail self (.parts false []) r
  | none, some r => (self .expression r).map fun p => (.refused .starred false [p.1], p.2)
  | none, none => do
    let (n, r) ← self .named ts
    match skip? .colon r with
    | some r => if startsNamed ts then none else sliceTail self n r
    | none => some (n, r)

def subscripts (ts : List Token) : Reading := do
  let (n, r) ← subscript self ts
  match skip? .comma r with
  | none => some (n, r)
  | some r =>
    if nextIs .closeBracket r then some (n, r)
    else do
      let (m, r) ← self .subscripts r
      some (.parts false [n, m], r)

/-- After a parameter and its default: a comma and more parameters, or the colon. -/
def nextParameter (phase : ParameterPhase) (defaults : Bool) (default : Node) (ts : List Token) :
    Reading :=
  match skip? .comma ts with
  | some r => do
    let (m, r) ← self (.parameters phase defaults) r
    some (.parts false [default, m], r)
  | none => if nextIs .colon ts && phase ≠ .bareStar then some (default, ts) else none

/-- A parameter without a default. -/
def bareParameter (phase : ParameterPhase) (defaults : Bool) (ts : List Token) : Reading :=
  nextParameter self phase defaults (.parts false []) ts

def namedParameter (phase : ParameterPhase) (defaults : Bool) (ts : List Token) : Reading := do
  let (_, r) ← readName? ts
  let keywordOnly := phase = .bareStar || phase = .keywordOnly
  let next : ParameterPhase :=
    if keywordOnly then .keywordOnly else if phase = .start then .leading else phase
  match skip? .assign r with
  | some r => do
    let (n, r) ← self .expression r
    nextParameter self next true (.refused .lambda false [n]) r
  | none => if defaults && !keywordOnly then none else bareParameter self next defaults r

/-- The parameters of a function expression up to the colon. A slash may stand once, after a
parameter and before any star; a parameter without default may not follow one with, unless a star
stands between them; a bare star needs a parameter after it. -/
def parameters (phase : ParameterPhase) (defaults : Bool) (ts : List Token) : Reading :=
  let afterStar := phase = .bareStar || phase = .keywordOnly
  match ts with
  | .symbol .colon :: _ =>
    if phase = .bareStar then none else some (.parts false [], ts)
  | .symbol .slash :: r =>
    if phase = .leading then bareParameter self .afterSlash defaults r else none
  | .symbol .star :: r =>
    if afterStar then none
    else if nextIs .comma r then bareParameter self .bareStar defaults r
    else do
      let (_, r) ← readName? r
      bareParameter self .keywordOnly defaults r
  | .symbol .doubleStar :: r =>
    if phase = .bareStar then none
    else do
      let (_, r) ← readName? r
      let r := (skip? .comma r).getD r
      if nextIs .colon r then some (.parts false [], r) else none
  | ts => namedParameter self phase defaults ts

/-- How a goal is read, given how the goals it calls are read. -/
def rule : Goal → List Token → Reading
  | .expressions => expressions self
  | .expression => expression self
  | .named => named self
  | .item kind => item self kind
  | .items kind bindable => items self kind bindable
  | .disjunction => joined self "or" .conjunction .moreDisjuncts
  | .moreDisjuncts => moreJoined self "or" .conjunction .moreDisjuncts
  | .conjunction => joined self "and" .inversion .moreConjuncts
  | .moreConjuncts => moreJoined self "and" .inversion .moreConjuncts
  | .inversion => inversion self
  | .comparison => comparison self
  | .moreComparands => moreComparands self
  | .binary level => binary self level
  | .binaryTail level left => binaryTail self level left
  | .factor => factor self
  | .power => power self
  | .primary => primary self
  | .primaryTail node => primaryTail self node
  | .atom => atom self
  | .yielded => yielded self
  | .comprehension => comprehension self
  | .conditions => conditions self
  | .targets => targets self
  | .called => called self
  | .arguments phase => arguments self phase
  | .subscripts => subscripts self
  | .entries => entries self
  | .parameters phase defaults => parameters self phase defaults

end

/-- Reads a goal with at most the given depth of calls. -/
def read : Nat → Goal → List Token → Reading
  | 0 => fun _ _ => none
  | depth + 1 => rule (read depth)

end Grammar

/-- Why a text is no expression. -/
inductive SyntaxError
  | invalid
  | indented
deriving DecidableEq, Repr

/-- A depth of calls that no expression with so many characters exceeds. -/
def callDepth (length : Nat) : Nat := 32 * (length + 2)

/-- The expression that a text denotes. -/
def Node.ofText (t : Text) : Except SyntaxError Node :=
  match tokens t with
  | .indent :: _ => .error .indented
  | ts =>
    match Grammar.read (callDepth t.length) .expressions ts with
    | some (n, []) => .ok n
    | some (n, [.lineEnd]) => .ok n
    | some (_, .lineEnd :: .indent :: _) => .error .indented
    | _ => .error .invalid

end HeaderBindings.Constant
