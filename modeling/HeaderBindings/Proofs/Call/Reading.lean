import HeaderBindings.Call.Code
import HeaderBindings.Proofs.Call.Forms
import Mathlib.Data.List.Forall2

/-!
# Reading call code

The lines of call code have few forms: fixed texts with symbols between them, and native calls with
any number of operands. They are read here without regard to how they were written, and every line
that is written reads as what it was written for.
-/
namespace HeaderBindings.Call

open Text

/-! ### Native calls -/

/-- What is passed to a native function: a pointer, or the value in a buffer. -/
inductive Passed
  | pointer (name : Text)
  | value (slot : Slot)
deriving DecidableEq, Repr

structure NativeCall where
  target : Option Slot
  function : Text
  passed : List Passed
deriving DecidableEq, Repr

def valueForm : List Text := ["*(".toList, "*)$P(".toList, [')']]

def targetForm : List Text := ["*(".toList, "*)$P(".toList, ") = ".toList]

def unindent (t : Text) : Text := t.dropWhile (· = ' ')

def dropSuffix? (s t : Text) : Option Text := (dropPrefix? s.reverse t.reverse).map List.reverse

def Passed.read? (t : Text) : Option Passed :=
  match whole? valueForm t with
  | some [type, name] => some (.value ⟨name, type⟩)
  | _ =>
    match symbol? t with
    | some (w, []) => some (.pointer w)
    | _ => none

def passed? (t : Text) : Option (List Passed) :=
  if t = [] then some [] else ((splitOn ',' t).map unindent).mapM Passed.read?

/-- Where the result goes, and the rest of the statement. -/
def target? (t : Text) : Option Slot × Text :=
  match form? targetForm t with
  | some ([type, name], r) => (some ⟨name, type⟩, r)
  | _ => (none, t)

def NativeCall.read? (t : Text) : Option NativeCall := do
  let (function, r) ← symbol? (target? t).2
  let r ← dropPrefix? ['('] r
  let r ← dropSuffix? [')', ';'] r
  let passed ← passed? r
  some ⟨(target? t).1, function, passed⟩

/-! ### Lines -/

/-- What a matrix header says: its size by the axes that it is taken from, the type of its elements,
and the buffer of its data. -/
structure Header where
  columns : Text
  rows : Text
  type : Text
  buffer : Text
deriving DecidableEq, Repr

inductive Line
  | opening (letter : Text)
  | declare (name pointer : Text)
  | test (first second : Text)
  | assign (name : Text) (header : Header)
  | point (pointer name : Text)
  | endTest
  | call (c : NativeCall)
  | ending
deriving DecidableEq, Repr

namespace Line

def openingForm : List Text := ["types(".toList, ") %\x7b".toList]

def declareForm : List Text := ["CvMat ".toList, ", *".toList, " = NULL;".toList]

def testForm : List Text := ["if($SIZE(".toList, ") && $SIZE(".toList, ")) \x7b".toList]

def assignForm : List Text :=
  [[], " = cvMat($SIZE(".toList, "), $SIZE(".toList, "), ".toList, ", $P(".toList, "));".toList]

def pointForm : List Text := [[], " = &".toList, [';']]

/-- A line without its indentation. -/
def ofText? (t : Text) : Option Line :=
  ((NativeCall.read? t).map Line.call).or <|
  ((whole? openingForm t).bind fun
    | [letter] => some (.opening letter)
    | _ => none).or <|
  ((whole? declareForm t).bind fun
    | [name, pointer] => some (.declare name pointer)
    | _ => none).or <|
  ((whole? testForm t).bind fun
    | [first, second] => some (.test first second)
    | _ => none).or <|
  ((whole? assignForm t).bind fun
    | [name, columns, rows, type, buffer] => some (.assign name ⟨columns, rows, type, buffer⟩)
    | _ => none).or <|
  ((whole? pointForm t).bind fun
    | [pointer, name] => some (.point pointer name)
    | _ => none).or <|
  if t = ['\x7d'] then some .endTest else if t = ['%', '\x7d'] then some .ending else none

def read? (t : Text) : Option Line := ofText? (unindent t)

end Line

/-! ### What is written is read -/

theorem dropSuffix?_append (t s : Text) : dropSuffix? s (t ++ s) = some t := by
  rw [dropSuffix?, List.reverse_append, dropPrefix?_append]
  simp

theorem IsSymbol.ne_star {w : Text} (hw : IsSymbol w) {p r : Text} {ps : List Text} :
    form? (('*' :: p) :: ps) (w ++ r) = none := by
  obtain ⟨c, w, rfl⟩ := List.exists_cons_of_ne_nil hw.ne_nil
  have hc : '*' ≠ c := by
    rintro rfl
    cases hw.forall_mem '*' List.mem_cons_self
  cases ps <;> simp [form?, dropPrefix?, hc]

theorem target?_symbol {w : Text} (hw : IsSymbol w) (r : Text) :
    target? (w ++ r) = (none, w ++ r) := by
  rw [target?, targetForm, show "*(".toList = ['*', '('] from rfl, hw.ne_star]

/-- A symbol and a space begin no native call. -/
theorem NativeCall.read?_symbol_space {w : Text} (hw : IsSymbol w) (r : Text) :
    NativeCall.read? (w ++ ' ' :: r) = none := by
  rw [NativeCall.read?, target?_symbol hw, symbol?_append hw rfl]
  rfl

/-- A native call ends in a semicolon. -/
theorem NativeCall.read?_brace {w : Text} (hw : IsSymbol w) (r : Text) :
    NativeCall.read? (w ++ '(' :: (r ++ ['\x7b'])) = none := by
  have hend : dropSuffix? [')', ';'] (r ++ ['\x7b']) = none := by
    rw [dropSuffix?, List.reverse_append]
    rfl
  rw [NativeCall.read?, target?_symbol hw, symbol?_append hw rfl]
  simp [dropPrefix?, hend]

namespace Line

theorem ofText?_opening {letter : Text} (h : IsSymbol letter) :
    ofText? (fill openingForm [letter]) = some (.opening letter) := by
  have hcall : NativeCall.read? (fill openingForm [letter]) = none := by
    have htypes : IsSymbol "types".toList := ⟨by decide, by decide⟩
    have hread := NativeCall.read?_brace htypes (letter ++ ") %".toList)
    rwa [List.append_assoc] at hread
  have hform : whole? openingForm (fill openingForm [letter]) = some [letter] :=
    whole?_fill (by decide) (by simpa using h) rfl
  simp [ofText?, hcall, hform]

theorem ofText?_declare {name pointer : Text} (hn : IsSymbol name) (hp : IsSymbol pointer) :
    ofText? (fill declareForm [name, pointer]) = some (.declare name pointer) := by
  have hcall : NativeCall.read? (fill declareForm [name, pointer]) = none := by
    have htype : IsSymbol "CvMat".toList := ⟨by decide, by decide⟩
    exact NativeCall.read?_symbol_space htype _
  have hform : whole? declareForm (fill declareForm [name, pointer]) = some [name, pointer] :=
    whole?_fill (by decide) (by simp [hn, hp]) rfl
  have hopening : whole? openingForm (fill declareForm [name, pointer]) = none := rfl
  simp [ofText?, hcall, hform, hopening]

theorem ofText?_test {first second : Text} (hf : IsSymbol first) (hs : IsSymbol second) :
    ofText? (fill testForm [first, second]) = some (.test first second) := by
  have hcall : NativeCall.read? (fill testForm [first, second]) = none := by
    have hif : IsSymbol "if".toList := ⟨by decide, by decide⟩
    have hread := NativeCall.read?_brace hif
      ("$SIZE(".toList ++ (first ++ (") && $SIZE(".toList ++ (second ++ ")) ".toList))))
    simpa [fill, testForm] using hread
  have hform : whole? testForm (fill testForm [first, second]) = some [first, second] :=
    whole?_fill (by decide) (by simp [hf, hs]) rfl
  have hopening : whole? openingForm (fill testForm [first, second]) = none := rfl
  have hdeclare : whole? declareForm (fill testForm [first, second]) = none := rfl
  simp [ofText?, hcall, hform, hopening, hdeclare]

theorem ofText?_assign {name columns rows type buffer : Text}
    (h : ∀ w ∈ [matrixVariable name, columns, rows, type, buffer], IsSymbol w) :
    ofText? (fill assignForm [matrixVariable name, columns, rows, type, buffer]) =
      some (.assign (matrixVariable name) ⟨columns, rows, type, buffer⟩) := by
  generalize ht : fill assignForm [matrixVariable name, columns, rows, type, buffer] = t
  have hcall : NativeCall.read? t = none :=
    ht ▸ NativeCall.read?_symbol_space (h _ List.mem_cons_self) _
  have hform : whole? assignForm t = some [matrixVariable name, columns, rows, type, buffer] :=
    ht ▸ whole?_fill (by decide) h rfl
  have hopening : whole? openingForm t = none := ht ▸ rfl
  have hdeclare : whole? declareForm t = none := ht ▸ rfl
  have htest : whole? testForm t = none := ht ▸ rfl
  simp [ofText?, hcall, hform, hopening, hdeclare, htest]

theorem ofText?_point {pointer name : Text} (hp : IsSymbol (pointerVariable pointer))
    (hn : IsSymbol name) : ofText? (fill pointForm [pointerVariable pointer, name]) =
      some (.point (pointerVariable pointer) name) := by
  generalize ht : fill pointForm [pointerVariable pointer, name] = t
  have hcall : NativeCall.read? t = none := ht ▸ NativeCall.read?_symbol_space hp _
  have hform : whole? pointForm t = some [pointerVariable pointer, name] :=
    ht ▸ whole?_fill (by decide) (by simp [hp, hn]) rfl
  have hopening : whole? openingForm t = none := ht ▸ rfl
  have hdeclare : whole? declareForm t = none := ht ▸ rfl
  have htest : whole? testForm t = none := ht ▸ rfl
  have hassign : whole? assignForm t = none := by
    have htext : t = pointerVariable pointer ++ (" = &".toList ++ (name ++ [';'])) := ht ▸ rfl
    rw [whole?, assignForm, htext, form?_symbol hp rfl]
    rfl
  simp [ofText?, hcall, hform, hopening, hdeclare, htest, hassign]

theorem ofText?_endTest : ofText? ['\x7d'] = some .endTest := by decide

theorem ofText?_ending : ofText? "%\x7d".toList = some .ending := by decide

theorem ofText?_call {t : Text} {c : NativeCall} (h : NativeCall.read? t = some c) :
    ofText? t = some (.call c) := by
  simp [ofText?, h]

end Line

/-! ### Native calls -/

def Passed.ofOperand : Operand → Passed
  | .matrix s => .pointer (pointerVariable s.name)
  | .value s => .value s

structure Slot.IsPlain (s : Slot) : Prop where
  name : IsSymbol s.name
  type : IsSymbol s.type

theorem Slot.IsPlain.forall_mem {s : Slot} (h : s.IsPlain) :
    ∀ w ∈ [s.type, s.name], IsSymbol w := by
  simp [h.type, h.name]

theorem IsSymbol.pointerVariable {name : Text} (h : IsSymbol name) :
    IsSymbol (pointerVariable name) :=
  IsSymbol.append ⟨by decide, by decide⟩ h

theorem IsSymbol.matrixVariable {name : Text} (h : IsSymbol name) :
    IsSymbol (matrixVariable name) :=
  IsSymbol.append ⟨by decide, by decide⟩ h

theorem Slot.write_eq (s : Slot) : s.write = fill valueForm [s.type, s.name] := by
  change "*(".toList ++ s.type ++ "*)$P(".toList ++ s.name ++ [')'] = _
  simp [fill, valueForm]

theorem Passed.read?_write {o : Operand} (h : o.slot.IsPlain) :
    Passed.read? o.write = some (.ofOperand o) := by
  cases o with
  | matrix s =>
    have hform : whole? valueForm (pointerVariable s.name) = none := rfl
    have hsymbol : symbol? (pointerVariable s.name) = some (pointerVariable s.name, []) := by
      have hread := symbol?_append (IsSymbol.pointerVariable h.name) (r := []) rfl
      rwa [List.append_nil] at hread
    rw [Operand.write, Passed.read?, hform, hsymbol]
    rfl
  | value s =>
    have hform : whole? valueForm (fill valueForm [s.type, s.name]) = some [s.type, s.name] :=
      whole?_fill (by decide) h.forall_mem rfl
    rw [Operand.write, Slot.write_eq, Passed.read?, hform]
    rfl

theorem Slot.not_mem_write {s : Slot} (h : s.IsPlain) {c : Char} (hc : mayBeIdentifier c = false)
    (hv : ∀ p ∈ valueForm, c ∉ p) : c ∉ s.write := by
  rw [Slot.write_eq]
  exact not_mem_fill hc hv h.forall_mem

theorem Operand.not_mem_write {o : Operand} (h : o.slot.IsPlain) {c : Char}
    (hc : mayBeIdentifier c = false) (hv : ∀ p ∈ valueForm, c ∉ p) : c ∉ o.write := by
  cases o with
  | matrix s => exact (IsSymbol.pointerVariable h.name).not_mem hc
  | value s => exact Slot.not_mem_write h hc hv

theorem Operand.unindent_write (o : Operand) : unindent o.write = o.write := by
  cases o <;> rfl

theorem Operand.write_ne_nil (o : Operand) : o.write ≠ [] := by
  cases o <;> exact List.cons_ne_nil _ _

theorem passed?_join {os : List Operand} (h : ∀ o ∈ os, o.slot.IsPlain) :
    passed? (join [',', ' '] (os.map Operand.write)) = some (os.map Passed.ofOperand) := by
  cases os with
  | nil => rfl
  | cons o os =>
    have hfree : ∀ t ∈ o.write :: os.map Operand.write, ',' ∉ t := by
      intro t ht
      obtain ⟨u, hu, rfl⟩ : ∃ u ∈ o :: os, u.write = t := List.mem_map.mp ht
      exact Operand.not_mem_write (h u hu) (by decide) (by decide)
    have hcut : splitOn ',' (join [',', ' '] (o.write :: os.map Operand.write)) =
        o.write :: (os.map Operand.write).map ([' '] ++ ·) := splitOn_join (by decide) hfree
    have hne : join [',', ' '] (o.write :: os.map Operand.write) ≠ [] := by
      rw [join_cons]
      exact List.append_ne_nil_of_left_ne_nil o.write_ne_nil _
    have hpieces : (o.write :: (os.map Operand.write).map ([' '] ++ ·)).map unindent =
        (o :: os).map Operand.write := by
      rw [List.map_cons, List.map_map, List.map_map, o.unindent_write, List.map_cons]
      exact congrArg _ (List.map_congr_left fun u _ => u.unindent_write)
    rw [passed?, List.map_cons, if_neg hne, hcut, hpieces]
    exact mapM_map_eq_some fun u hu => Passed.read?_write (h u hu)

theorem target?_fill {s : Slot} (h : s.IsPlain) (r : Text) :
    target? (fill targetForm [s.type, s.name] ++ r) = (some s, r) := by
  have hform : form? targetForm (fill targetForm [s.type, s.name] ++ r) =
      some ([s.type, s.name], r) := form?_fill_append (by decide) h.forall_mem (by rfl) r
  rw [target?, hform]

/-- The native call that an expression stands for. -/
def NativeCall.ofExpression (e : Expression) : NativeCall :=
  ⟨e.target, e.function, e.operands.map .ofOperand⟩

theorem NativeCall.read?_of_target? {t function : Text} {operands : List Operand}
    {target : Option Slot} (hf : IsSymbol function) (ho : ∀ o ∈ operands, o.slot.IsPlain)
    (h : target? t =
      (target, function ++ '(' :: (join [',', ' '] (operands.map Operand.write) ++ [')', ';']))) :
    NativeCall.read? t = some (.ofExpression ⟨function, operands, target⟩) := by
  have hopen (r : Text) : dropPrefix? ['('] ('(' :: r) = some r := dropPrefix?_append ['('] r
  have hfunction (r : Text) : symbol? (function ++ '(' :: r) = some (function, '(' :: r) :=
    symbol?_append hf rfl
  rw [NativeCall.read?, h]
  simp only [Option.bind_eq_bind, Option.bind_some, hfunction, hopen, dropSuffix?_append,
    passed?_join ho]
  rfl

/-- A written call is read as what it calls, with its operands in order. -/
theorem NativeCall.read?_write {e : Expression} (hf : IsSymbol e.function)
    (ho : ∀ o ∈ e.operands, o.slot.IsPlain) (ht : ∀ s ∈ e.target, s.IsPlain) :
    NativeCall.read? e.write = some (.ofExpression e) := by
  obtain ⟨function, operands, target⟩ := e
  have hassoc : function ++ '(' :: join [',', ' '] (operands.map Operand.write) ++ [')', ';'] =
      function ++ '(' :: (join [',', ' '] (operands.map Operand.write) ++ [')', ';']) := by simp
  cases target with
  | none =>
    rw [Expression.write]
    dsimp only
    rw [hassoc]
    exact read?_of_target? hf ho (target?_symbol hf _)
  | some s =>
    have hslot (r : Text) : s.write ++ " = ".toList ++ r =
        fill targetForm [s.type, s.name] ++ r := by
      simp [Slot.write_eq, fill, valueForm, targetForm]
    rw [Expression.write]
    dsimp only
    rw [hassoc, hslot]
    exact read?_of_target? hf ho (target?_fill (ht s rfl) _)

/-- A call is one line as long as the names of its function and of its target are. -/
theorem Expression.newline_not_mem_write (e : Expression) (hf : '\n' ∉ e.function)
    (ho : ∀ o ∈ e.operands, o.slot.IsPlain) (ht : ∀ s ∈ e.target, '\n' ∉ s.write) :
    '\n' ∉ e.write := by
  obtain ⟨function, operands, target⟩ := e
  have hoperands : ∀ t ∈ operands.map Operand.write, '\n' ∉ t := by
    intro t h
    obtain ⟨o, hmem, rfl⟩ := List.mem_map.mp h
    exact Operand.not_mem_write (ho o hmem) (by decide) (by decide)
  have hjoin : '\n' ∉ join [',', ' '] (operands.map Operand.write) :=
    not_mem_join (by decide) hoperands
  cases target with
  | none => simpa [Expression.write, hjoin] using hf
  | some s => simpa [Expression.write, hjoin, ht s rfl] using hf

/-! ### Code -/

/-- The lines of code, less empty ones. -/
def Line.readAll? (t : Text) : Option (List Line) := ((lines t).filter (· ≠ [])).mapM Line.read?

/-- A text that is one line and reads as the given one. -/
structure Line.Reads (t : Text) (l : Line) : Prop where
  read : Line.read? t = some l
  ne_nil : t ≠ []
  newline : '\n' ∉ t

/-- What a statement reads as. -/
def Line.ofStatement : Statement → List Line
  | .declare s => [.declare s.variableName s.pointerName]
  | .attach s type => [.test s.rows s.columns,
      .assign s.variableName ⟨s.columns, s.rows, type, s.name⟩,
      .point s.pointerName s.variableName, .endTest]
  | .call e => [.call (.ofExpression e)]

structure MatrixStep.IsPlain (s : MatrixStep) : Prop where
  name : IsSymbol s.name
  rows : IsSymbol s.rows
  columns : IsSymbol s.columns

/-- A plan of symbols. -/
structure Plan.IsPlain (p : Plan) : Prop where
  steps : ∀ s ∈ p.steps, s.IsPlain
  function : IsSymbol p.call.function
  operands : ∀ o ∈ p.call.operands, o.slot.IsPlain
  target : ∀ s ∈ p.call.target, s.IsPlain

namespace Line

theorem reads_of_ofText? {t : Text} {l : Line} (h : ofText? t = some l) (hi : unindent t = t)
    (hn : '\n' ∉ t) : Reads t l where
  read := by rw [read?, hi, h]
  ne_nil := by
    rintro rfl
    have hnone : ofText? [] = none := by decide
    rw [hnone] at h
    cases h
  newline := hn

theorem Reads.indent {t : Text} {l : Line} (h : Reads t l) : Reads (indent ++ t) l where
  read := h.read
  ne_nil := List.append_ne_nil_of_left_ne_nil (by decide) t
  newline := by
    rw [List.mem_append]
    exact not_or.mpr ⟨by decide, h.newline⟩

theorem unindent_symbol_append {w : Text} (h : IsSymbol w) (r : Text) :
    unindent (w ++ r) = w ++ r := by
  obtain ⟨c, w, rfl⟩ := List.exists_cons_of_ne_nil h.ne_nil
  have hc : c ≠ ' ' := by
    rintro rfl
    cases h.forall_mem ' ' List.mem_cons_self
  exact List.dropWhile_cons_of_neg (by simpa using hc)

theorem reads_call {e : Expression} (hf : IsSymbol e.function)
    (ho : ∀ o ∈ e.operands, o.slot.IsPlain) (ht : ∀ s ∈ e.target, s.IsPlain) :
    Reads e.write (.call (.ofExpression e)) := by
  have hread := ofText?_call (NativeCall.read?_write hf ho ht)
  have hnewline : '\n' ∉ e.write := e.newline_not_mem_write (hf.not_mem (by decide)) ho
    fun s hs => Slot.not_mem_write (ht s hs) (by decide) (by decide)
  obtain ⟨function, operands, target⟩ := e
  refine reads_of_ofText? hread ?_ hnewline
  cases target with
  | none =>
    simp only [Expression.write, List.append_assoc]
    exact unindent_symbol_append hf _
  | some s => rfl

theorem isSymbol_matrixType (s : MatrixStep) (i : Instantiation) :
    IsSymbol (s.matrixType i).toList := by
  have htype (j : Instantiation) : IsSymbol j.matrixType.toList := by
    cases j <;> exact ⟨by decide, by decide⟩
  unfold MatrixStep.matrixType
  cases s.element with
  | int => exact htype .long
  | float => exact htype .float
  | double => exact htype .double
  | native => exact htype i

theorem lines_declare (m : MatrixStep) : (Statement.declare m).lines =
    [Call.fill declareForm [m.variableName, m.pointerName]] := by
  simp only [Statement.lines, List.append_assoc]
  rfl

theorem lines_attach (m : MatrixStep) (type : Text) : (Statement.attach m type).lines =
    [Call.fill testForm [m.rows, m.columns],
      indent ++ Call.fill assignForm [m.variableName, m.columns, m.rows, type, m.name],
      indent ++ Call.fill pointForm [m.pointerName, m.variableName], ['\x7d']] := by
  unfold Statement.lines Call.sizeOf
  simp only [List.append_assoc]
  rfl

theorem reads_declare {m : MatrixStep} (h : m.IsPlain) :
    Reads (Call.fill declareForm [m.variableName, m.pointerName])
      (.declare m.variableName m.pointerName) := by
  have hv := IsSymbol.matrixVariable h.name
  have hp := IsSymbol.pointerVariable h.name
  refine reads_of_ofText? (ofText?_declare hv hp) rfl (not_mem_fill (by decide) (by decide) ?_)
  exact List.forall_mem_cons.mpr ⟨hv, List.forall_mem_singleton.mpr hp⟩

theorem reads_test {m : MatrixStep} (h : m.IsPlain) :
    Reads (Call.fill testForm [m.rows, m.columns]) (.test m.rows m.columns) := by
  refine reads_of_ofText? (ofText?_test h.rows h.columns) rfl
    (not_mem_fill (by decide) (by decide) ?_)
  exact List.forall_mem_cons.mpr ⟨h.rows, List.forall_mem_singleton.mpr h.columns⟩

theorem reads_assign {m : MatrixStep} (h : m.IsPlain) {type : Text} (ht : IsSymbol type) :
    Reads (Call.fill assignForm [m.variableName, m.columns, m.rows, type, m.name])
      (.assign m.variableName ⟨m.columns, m.rows, type, m.name⟩) := by
  have hwords : ∀ w ∈ [m.variableName, m.columns, m.rows, type, m.name], IsSymbol w := by
    simp only [List.forall_mem_cons]
    exact ⟨IsSymbol.matrixVariable h.name, h.columns, h.rows, ht, h.name, List.forall_mem_nil _⟩
  exact reads_of_ofText? (ofText?_assign hwords) rfl (not_mem_fill (by decide) (by decide) hwords)

theorem reads_point {m : MatrixStep} (h : m.IsPlain) :
    Reads (Call.fill pointForm [m.pointerName, m.variableName])
      (.point m.pointerName m.variableName) := by
  have hv := IsSymbol.matrixVariable h.name
  have hp := IsSymbol.pointerVariable h.name
  refine reads_of_ofText? (ofText?_point hp hv) rfl (not_mem_fill (by decide) (by decide) ?_)
  exact List.forall_mem_cons.mpr ⟨hp, List.forall_mem_singleton.mpr hv⟩

theorem reads_endTest : Reads ['\x7d'] .endTest := reads_of_ofText? ofText?_endTest rfl (by decide)

/-- The lines of a statement read as what it says. -/
theorem forall₂_reads_statement {p : Plan} (h : p.IsPlain) {i : Instantiation} {s : Statement}
    (hs : s ∈ p.body i) : List.Forall₂ Reads s.lines (ofStatement s) := by
  simp only [Plan.body, List.mem_append, List.mem_map, List.mem_singleton] at hs
  rcases hs with (⟨m, hm, rfl⟩ | ⟨m, hm, rfl⟩) | rfl
  · rw [lines_declare]
    exact .cons (reads_declare (h.steps m hm)) .nil
  · have hm := h.steps m hm
    rw [lines_attach]
    exact .cons (reads_test hm) (.cons (reads_assign hm (isSymbol_matrixType m i)).indent
      (.cons (reads_point hm).indent (.cons reads_endTest .nil)))
  · exact .cons (reads_call h.function h.operands h.target) .nil

end Line

/-- Texts that are joined by line feeds, one a line, are read line by line. -/
theorem Line.readAll?_join {ts : List Text} {ls : List Line} (h : List.Forall₂ Reads ts ls) :
    readAll? (join ['\n'] ts) = some ls := by
  have hread : ts.mapM read? = some ls := by
    induction h with
    | nil => rfl
    | cons hfirst _ ih => simp [hfirst.read, ih]
  have hplain : ∀ t ∈ ts, t ≠ [] ∧ '\n' ∉ t := by
    clear hread
    induction h with
    | nil => exact List.forall_mem_nil _
    | cons hfirst _ ih => exact List.forall_mem_cons.mpr ⟨⟨hfirst.ne_nil, hfirst.newline⟩, ih⟩
  cases ts with
  | nil =>
    rw [← hread]
    rfl
  | cons t ts =>
    have hfilter : (t :: ts).filter (· ≠ []) = t :: ts :=
      List.filter_eq_self.mpr fun u hu => by simpa using (hplain u hu).1
    rw [readAll?, lines_join fun u hu => (hplain u hu).2, hfilter, hread]

theorem forall₂_flatMap {α β γ : Type} {r : β → γ → Prop} {f : α → List β} {g : α → List γ}
    {as : List α} (h : ∀ a ∈ as, List.Forall₂ r (f a) (g a)) :
    List.Forall₂ r (as.flatMap f) (as.flatMap g) := by
  induction as with
  | nil => exact .nil
  | cons a as ih =>
    obtain ⟨ha, has⟩ := List.forall_mem_cons.mp h
    exact List.rel_append ha (ih has)

namespace Plan

/-- What the lines of a block read as. -/
def lines (p : Plan) (i : Instantiation) : List Line :=
  .opening [i.letter] :: (p.body i).flatMap Line.ofStatement ++ [.ending]

theorem forall₂_reads_block {p : Plan} (h : p.IsPlain) (i : Instantiation) :
    List.Forall₂ Line.Reads (p.block i) (p.lines i) := by
  have hletter : IsSymbol [i.letter] := by
    cases i <;> exact ⟨by decide, by decide⟩
  have hfree : '\n' ∉ fill Line.openingForm [[i.letter]] :=
    not_mem_fill (by decide) (by decide) (List.forall_mem_singleton.mpr hletter)
  have hopening : Line.Reads (fill Line.openingForm [[i.letter]]) (.opening [i.letter]) :=
    Line.reads_of_ofText? (Line.ofText?_opening hletter) rfl hfree
  have hending : Line.Reads "%\x7d".toList .ending :=
    Line.reads_of_ofText? Line.ofText?_ending rfl (by decide)
  have hbody : List.Forall₂ Line.Reads
      ((p.body i).flatMap fun s => s.lines.map (indent ++ ·))
      ((p.body i).flatMap Line.ofStatement) := by
    refine forall₂_flatMap fun s hs => List.forall₂_map_left_iff.mpr ?_
    exact (Line.forall₂_reads_statement h hs).imp fun _ _ hr => hr.indent
  exact List.rel_append (.cons hopening hbody) (.cons hending .nil)

/-- The code of a plan with matrices reads as one block for each instantiation, in order. -/
theorem readAll?_code {p : Plan} (h : p.IsPlain) (hg : p.isGeneric = true)
    (is : List Instantiation) : Line.readAll? (p.code is) = some (is.flatMap p.lines) := by
  rw [code, if_pos hg]
  exact Line.readAll?_join (forall₂_flatMap fun i _ => forall₂_reads_block h i)

end Plan
end HeaderBindings.Call
