import HeaderBindings.Proofs.Call.Reading
import Mathlib.Data.List.Nodup

/-!
# Running call code

The lines of a block are run in order: variables are declared once, a test over two axes decides
whether the lines behind it take effect, and a native call receives what its pointers point at. A
line that has no meaning where it stands stops the run. A block that prepares matrices so calls its
function once, with no matrix for an empty one and with the header over its own buffer for another.
-/
namespace HeaderBindings.Call

open Text

/-! ### Runs -/

/-- What a variable holds. -/
inductive Cell
  | matrix (header : Option Header)
  | pointer (name : Option Text)
deriving DecidableEq, Repr

/-- What a native function is given for an argument. -/
inductive Given
  | null
  | matrix (header : Header)
  | value (slot : Slot)
deriving DecidableEq, Repr

/-- A call that was made: in which block, with which variables declared before it, and what its
function was given. -/
structure Performed where
  block : Option Text
  declared : List Text
  call : NativeCall
  given : List Given
deriving DecidableEq, Repr

/-- The block that is open, the test that is open and whether it holds, the variables of the block,
and the calls that were made. -/
structure State where
  block : Option Text
  test : Option Bool
  cells : List (Text × Cell)
  calls : List Performed
deriving DecidableEq, Repr

/-- Changes the variable of the given name. -/
def put (name : Text) (cell : Cell) : List (Text × Cell) → List (Text × Cell)
  | [] => []
  | (other, old) :: cells =>
    if other = name then (name, cell) :: cells else (other, old) :: put name cell cells

/-- What is received for what is passed. A pointer is good if it is null or points at a header that
was filled. -/
def receive (cells : List (Text × Cell)) : Passed → Option Given
  | .value slot => some (.value slot)
  | .pointer name =>
    match cells.lookup name with
    | some (.pointer none) => some .null
    | some (.pointer (some matrix)) =>
      match cells.lookup matrix with
      | some (.matrix (some header)) => some (.matrix header)
      | _ => none
    | _ => none

namespace State

def start : State := ⟨none, none, [], []⟩

/-- Whether nothing that stands here is skipped. -/
def isLive (s : State) : Bool := s.test ≠ some false

/-- A line of code, with axes of the given sizes. -/
def step (size : Text → ℕ) (s : State) : Line → Option State
  | .opening letter =>
    if s.block = none ∧ s.test = none then some { s with block := some letter } else none
  | .declare name pointer =>
    if s.block ≠ none ∧ s.test = none ∧ name ≠ pointer ∧ name ∉ s.cells.map Prod.fst ∧
        pointer ∉ s.cells.map Prod.fst then
      some { s with cells := s.cells ++ [(name, .matrix none), (pointer, .pointer none)] }
    else none
  | .test first second =>
    if s.test = none then some { s with test := some (size first ≠ 0 && size second ≠ 0) } else none
  | .assign name header =>
    match s.cells.lookup name with
    | some (.matrix _) =>
      some (if s.isLive then { s with cells := put name (.matrix (some header)) s.cells } else s)
    | _ => none
  | .point pointer name =>
    match s.cells.lookup pointer, s.cells.lookup name with
    | some (.pointer _), some (.matrix _) =>
      some (if s.isLive then { s with cells := put pointer (.pointer (some name)) s.cells } else s)
    | _, _ => none
  | .endTest => if s.test = none then none else some { s with test := none }
  | .call c =>
    if s.test = none then do
      let given ← c.passed.mapM (receive s.cells)
      some { s with calls := s.calls ++ [⟨s.block, s.cells.map Prod.fst, c, given⟩] }
    else none
  | .ending =>
    if s.block = none ∨ s.test ≠ none then none else some { s with block := none, cells := [] }

def run (size : Text → ℕ) (s : State) (ls : List Line) : Option State := ls.foldlM (step size) s

theorem run_cons_of_eq {size : Text → ℕ} {s u : State} {l : Line} (h : s.step size l = some u)
    (ls : List Line) : s.run size (l :: ls) = u.run size ls := by
  simp [run, h]

theorem run_append_of_eq {size : Text → ℕ} {s u : State} {ls : List Line}
    (h : s.run size ls = some u) (more : List Line) :
    s.run size (ls ++ more) = u.run size more := by
  rw [run, List.foldlM_append]
  exact congrArg (· >>= _) h

end State

/-! ### Variables -/

section Cells
variable {name : Text} {cell old : Cell} {before after : List (Text × Cell)}

theorem put_append (h : name ∉ before.map Prod.fst) :
    put name cell (before ++ (name, old) :: after) = before ++ (name, cell) :: after := by
  induction before with
  | nil => simp [put]
  | cons p before ih =>
    obtain ⟨hne, h⟩ := List.ne_and_not_mem_of_not_mem_cons h
    rw [List.cons_append, put, if_neg hne.symm, ih h, List.cons_append]

theorem lookup_append (h : name ∉ before.map Prod.fst) :
    (before ++ (name, cell) :: after).lookup name = some cell := by
  refine List.lookup_eq_some_iff.mpr ⟨before, after, rfl, fun p hp => ?_⟩
  have hne : name ≠ p.1 := fun he => h (he ▸ List.mem_map_of_mem hp)
  simpa using hne

theorem put_append_cons {first : Text} {c : Cell} (h : name ∉ before.map Prod.fst)
    (hne : first ≠ name) : put name cell (before ++ (first, c) :: (name, old) :: after) =
      before ++ (first, c) :: (name, cell) :: after := by
  have hbefore : name ∉ (before ++ [(first, c)]).map Prod.fst := by simp_all [eq_comm]
  have hput := @put_append name cell old (before ++ [(first, c)]) after hbefore
  simpa using hput

theorem lookup_append_cons {first : Text} {c : Cell} (h : name ∉ before.map Prod.fst)
    (hne : first ≠ name) :
    (before ++ (first, c) :: (name, cell) :: after).lookup name = some cell := by
  have hbefore : name ∉ (before ++ [(first, c)]).map Prod.fst := by simp_all [eq_comm]
  have hlookup := @lookup_append name cell (before ++ [(first, c)]) after hbefore
  simpa using hlookup

/-- A variable that is declared once holds what is listed for it. -/
theorem lookup_of_mem {cells : List (Text × Cell)} (hn : (cells.map Prod.fst).Nodup)
    (h : (name, cell) ∈ cells) : cells.lookup name = some cell := by
  obtain ⟨before, after, rfl⟩ := List.append_of_mem h
  rw [List.map_append, List.map_cons] at hn
  exact lookup_append fun hm => (List.nodup_append.mp hn).2.2 name hm name List.mem_cons_self rfl

end Cells

/-! ### Blocks -/

namespace MatrixStep

def header (i : Instantiation) (m : MatrixStep) : Header :=
  ⟨m.columns, m.rows, (m.matrixType i).toList, m.name⟩

/-- The variables for a matrix. -/
def names (m : MatrixStep) : List Text := [m.variableName, m.pointerName]

def declaration (m : MatrixStep) : Line := .declare m.variableName m.pointerName

/-- The lines that set the variables of a matrix. -/
def attachment (i : Instantiation) (m : MatrixStep) : List Line :=
  [.test m.rows m.columns, .assign m.variableName (m.header i),
    .point m.pointerName m.variableName, .endTest]

/-- Whether the matrix has an element. -/
def isFilled (size : Text → ℕ) (m : MatrixStep) : Bool := size m.rows ≠ 0 && size m.columns ≠ 0

/-- The variables after their declaration. -/
def declared (m : MatrixStep) : List (Text × Cell) :=
  [(m.variableName, .matrix none), (m.pointerName, .pointer none)]

/-- The variables after the test. -/
def attached (size : Text → ℕ) (i : Instantiation) (m : MatrixStep) : List (Text × Cell) :=
  if m.isFilled size then
    [(m.variableName, .matrix (some (m.header i))), (m.pointerName, .pointer (some m.variableName))]
  else m.declared

/-- What is given for the matrix. -/
def given (size : Text → ℕ) (i : Instantiation) (m : MatrixStep) : Given :=
  if m.isFilled size then .matrix (m.header i) else .null

theorem variableName_ne (m n : MatrixStep) : m.variableName ≠ n.pointerName := by
  intro h
  have hhead : 'm' = 'p' := (List.cons.inj h).1
  cases hhead

theorem names_attached (size : Text → ℕ) (i : Instantiation) (m : MatrixStep) :
    (m.attached size i).map Prod.fst = m.names := by
  unfold attached
  split_ifs <;> rfl

/-- Variables of different matrices are different. -/
theorem nodup_names {ms : List MatrixStep} (h : (ms.map (·.name)).Nodup) :
    (ms.flatMap names).Nodup := by
  refine List.nodup_flatMap.mpr ⟨fun m _ => ?_, ?_⟩
  · simpa [names] using m.variableName_ne m
  · refine (List.pairwise_map.mp h).imp fun {m n} hne => ?_
    have hv : m.variableName ≠ n.variableName := fun he => hne (List.append_cancel_left he)
    have hp : m.pointerName ≠ n.pointerName := fun he => hne (List.append_cancel_left he)
    simp [Function.onFun, names, hv.symm, hp.symm, (m.variableName_ne n).symm, n.variableName_ne m]

end MatrixStep

section Block
variable {size : Text → ℕ} {i : Instantiation} {block : Text} {calls : List Performed}

theorem fresh_of_nodup {names : List Text} {m : MatrixStep} {more : List Text}
    (h : (names ++ m.names ++ more).Nodup) : m.variableName ∉ names ∧ m.pointerName ∉ names := by
  have hne := (List.nodup_append.mp (List.nodup_append.mp h).1).2.2
  refine ⟨fun hm => ?_, fun hm => ?_⟩
  · exact hne _ hm m.variableName List.mem_cons_self rfl
  · exact hne _ hm m.pointerName (List.mem_cons_of_mem _ List.mem_cons_self) rfl

/-- All declarations of a block take effect. -/
theorem run_declarations {before : List (Text × Cell)} {ms : List MatrixStep}
    (h : (before.map Prod.fst ++ ms.flatMap MatrixStep.names).Nodup) :
    State.run size ⟨some block, none, before, calls⟩ (ms.map MatrixStep.declaration) =
      some ⟨some block, none, before ++ ms.flatMap MatrixStep.declared, calls⟩ := by
  induction ms generalizing before with
  | nil => simp [State.run]
  | cons m ms ih =>
    rw [List.flatMap_cons, ← List.append_assoc] at h
    have hfresh := fresh_of_nodup h
    have hstep : State.step size ⟨some block, none, before, calls⟩ m.declaration =
        some ⟨some block, none, before ++ m.declared, calls⟩ := by
      rw [MatrixStep.declaration, State.step]
      exact if_pos ⟨by simp, rfl, m.variableName_ne m, hfresh⟩
    have hnames : ((before ++ m.declared).map Prod.fst ++ ms.flatMap MatrixStep.names).Nodup := by
      rw [List.map_append]
      exact h
    have htail := ih hnames
    rw [List.map_cons, State.run_cons_of_eq hstep, htail, List.flatMap_cons, List.append_assoc]

/-- The test over the axes of a matrix sets its variables, and no others. -/
theorem run_attachment {before after : List (Text × Cell)} {m : MatrixStep}
    (hv : m.variableName ∉ before.map Prod.fst) (hp : m.pointerName ∉ before.map Prod.fst) :
    State.run size ⟨some block, none, before ++ (m.declared ++ after), calls⟩ (m.attachment i) =
      some ⟨some block, none, before ++ (m.attached size i ++ after), calls⟩ := by
  have hmatrix (c d : Cell) : (before ++ (m.variableName, c) :: (m.pointerName, d) :: after).lookup
      m.variableName = some c := lookup_append hv
  have hpointer (c d : Cell) :
      (before ++ (m.variableName, c) :: (m.pointerName, d) :: after).lookup m.pointerName =
        some d := lookup_append_cons hp (m.variableName_ne m)
  have hassign (c d e : Cell) :
      put m.variableName e (before ++ (m.variableName, c) :: (m.pointerName, d) :: after) =
        before ++ (m.variableName, e) :: (m.pointerName, d) :: after := put_append hv
  have hpoint (c d e : Cell) :
      put m.pointerName e (before ++ (m.variableName, c) :: (m.pointerName, d) :: after) =
        before ++ (m.variableName, c) :: (m.pointerName, e) :: after :=
    put_append_cons hp (m.variableName_ne m)
  have htest : State.step size ⟨some block, none, before ++ (m.declared ++ after), calls⟩
      (.test m.rows m.columns) =
      some ⟨some block, some (m.isFilled size), before ++ (m.declared ++ after), calls⟩ := rfl
  rw [MatrixStep.attachment, State.run_cons_of_eq htest, MatrixStep.attached]
  cases m.isFilled size with
  | true =>
    simp [State.run, MatrixStep.declared, State.step, State.isLive, hmatrix, hpointer, hassign,
      hpoint]
  | false => simp [State.run, MatrixStep.declared, State.step, State.isLive, hmatrix, hpointer]

theorem run_attachments {before : List (Text × Cell)} {ms : List MatrixStep}
    (h : (before.map Prod.fst ++ ms.flatMap MatrixStep.names).Nodup) :
    State.run size ⟨some block, none, before ++ ms.flatMap MatrixStep.declared, calls⟩
        (ms.flatMap (MatrixStep.attachment i)) =
      some ⟨some block, none, before ++ ms.flatMap (MatrixStep.attached size i), calls⟩ := by
  induction ms generalizing before with
  | nil => simp [State.run]
  | cons m ms ih =>
    rw [List.flatMap_cons, ← List.append_assoc] at h
    obtain ⟨hv, hp⟩ := fresh_of_nodup h
    have hstep := @run_attachment size i block calls before (ms.flatMap MatrixStep.declared) m hv hp
    have hnames :
        ((before ++ m.attached size i).map Prod.fst ++ ms.flatMap MatrixStep.names).Nodup := by
      rw [List.map_append, MatrixStep.names_attached]
      exact h
    have htail := ih hnames
    rw [List.flatMap_cons, List.flatMap_cons, List.flatMap_cons, State.run_append_of_eq hstep,
      ← List.append_assoc, htail, List.append_assoc]

/-- In a block every pointer is null, or it points at the header of its own matrix. -/
theorem receive_pointer {ms : List MatrixStep} (h : (ms.map (·.name)).Nodup) {m : MatrixStep}
    (hm : m ∈ ms) : receive (ms.flatMap (MatrixStep.attached size i)) (.pointer m.pointerName) =
      some (m.given size i) := by
  have hkeys : ((ms.flatMap (MatrixStep.attached size i)).map Prod.fst).Nodup := by
    have hnames := MatrixStep.nodup_names h
    rwa [List.map_flatMap, funext fun n => MatrixStep.names_attached size i n]
  have hmem {name : Text} {cell : Cell} (hc : (name, cell) ∈ m.attached size i) :
      (ms.flatMap (MatrixStep.attached size i)).lookup name = some cell :=
    lookup_of_mem hkeys (List.mem_flatMap.mpr ⟨m, hm, hc⟩)
  cases hf : m.isFilled size with
  | true =>
    have hmatrix : (m.variableName, .matrix (some (m.header i))) ∈ m.attached size i := by
      simp [MatrixStep.attached, hf]
    have hpointer : (m.pointerName, .pointer (some m.variableName)) ∈ m.attached size i := by
      simp [MatrixStep.attached, hf]
    simp only [receive, hmem hpointer, hmem hmatrix, MatrixStep.given, hf, if_true]
  | false =>
    have hpointer : (m.pointerName, .pointer none) ∈ m.attached size i := by
      simp [MatrixStep.attached, MatrixStep.declared, hf]
    simp [receive, hmem hpointer, MatrixStep.given, hf]

end Block

/-- The call of a block: all variables are declared before it. -/
def Plan.performed (p : Plan) (i : Instantiation) (given : List Given) : Performed :=
  ⟨some [i.letter], p.steps.flatMap MatrixStep.names, .ofExpression p.call, given⟩

theorem Plan.lines_eq (p : Plan) (i : Instantiation) : p.lines i =
    .opening [i.letter] :: (p.steps.map MatrixStep.declaration ++
      (p.steps.flatMap (MatrixStep.attachment i) ++ [.call (.ofExpression p.call), .ending])) := by
  have hdeclare : (p.steps.map Statement.declare).flatMap Line.ofStatement =
      p.steps.map MatrixStep.declaration := by
    rw [List.flatMap_map, List.map_eq_flatMap]
    rfl
  have hattach : (p.steps.map fun s => .attach s (s.matrixType i).toList).flatMap Line.ofStatement =
      p.steps.flatMap (MatrixStep.attachment i) := by
    rw [List.flatMap_map]
    rfl
  rw [Plan.lines, Plan.body, List.flatMap_append, List.flatMap_append, hdeclare, hattach]
  simp [Line.ofStatement]

/-- A block makes its call and leaves nothing behind. -/
theorem run_block {size : Text → ℕ} {p : Plan} (h : (p.steps.map (·.name)).Nodup)
    {i : Instantiation} {given : List Given}
    (hg : (p.call.operands.map Passed.ofOperand).mapM
      (receive (p.steps.flatMap (MatrixStep.attached size i))) = some given)
    (calls : List Performed) :
    State.run size ⟨none, none, [], calls⟩ (p.lines i) =
      some ⟨none, none, [], calls ++ [p.performed i given]⟩ := by
  have hnames : (([] : List (Text × Cell)).map Prod.fst ++
      p.steps.flatMap MatrixStep.names).Nodup := MatrixStep.nodup_names h
  have hopening : State.step size ⟨none, none, [], calls⟩ (.opening [i.letter]) =
      some ⟨some [i.letter], none, [], calls⟩ := rfl
  have hcall : State.step size
      ⟨some [i.letter], none, p.steps.flatMap (MatrixStep.attached size i), calls⟩
      (.call (.ofExpression p.call)) =
      some ⟨some [i.letter], none, p.steps.flatMap (MatrixStep.attached size i),
        calls ++ [p.performed i given]⟩ := by
    have hkeys : (p.steps.flatMap (MatrixStep.attached size i)).map Prod.fst =
        p.steps.flatMap MatrixStep.names := by
      rw [List.map_flatMap, funext fun m => MatrixStep.names_attached size i m]
    rw [State.step, if_pos rfl]
    simp only [NativeCall.ofExpression, hg, hkeys]
    rfl
  rw [Plan.lines_eq, State.run_cons_of_eq hopening,
    State.run_append_of_eq (run_declarations hnames),
    State.run_append_of_eq (run_attachments hnames), List.nil_append, State.run_cons_of_eq hcall]
  rfl

/-- Blocks make their calls one after another. -/
theorem run_blocks {size : Text → ℕ} {p : Plan} (h : (p.steps.map (·.name)).Nodup)
    {given : Instantiation → List Given}
    (hg : ∀ i, (p.call.operands.map Passed.ofOperand).mapM
      (receive (p.steps.flatMap (MatrixStep.attached size i))) = some (given i))
    (is : List Instantiation) (calls : List Performed) :
    State.run size ⟨none, none, [], calls⟩ (is.flatMap p.lines) =
      some ⟨none, none, [], calls ++ is.map fun i => p.performed i (given i)⟩ := by
  induction is generalizing calls with
  | nil => simp [State.run]
  | cons i is ih =>
    rw [List.flatMap_cons, State.run_append_of_eq (run_block h (hg i) calls), ih, List.map_cons,
      List.append_assoc, List.singleton_append]

/-! ### Code -/

/-- The calls that a code makes with axes of the given sizes. No block and no test stays open. -/
def execute (size : Text → ℕ) (code : Text) : Option (List Performed) := do
  let ls ← Line.readAll? code
  let s ← State.start.run size ls
  if s.block = none ∧ s.test = none then some s.calls else none

end HeaderBindings.Call
