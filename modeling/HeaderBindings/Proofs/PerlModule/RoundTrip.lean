import HeaderBindings.Proofs.Binding.Names
import HeaderBindings.Proofs.PerlModule.Reading

/-!
# A written module is read back

A document is plain when its comment has two lines, its headers are lines, its table has an
identifier and its constants have names, and its functions are named by word characters. No part of
a plain document looks like the end of its section, so the reader finds every section. The documents
of runs are plain.
-/
namespace HeaderBindings.PerlModule

open Binding (BoundFunction Generator)
open Constant (Value)
open Text

/-! ### The parts of a document -/

/-- What is written from the functions on. -/
def fromFunctions (fs : List BoundFunction) : Text :=
  fs.flatMap (fun f => gap ++ bindingSection f) ++ (gap ++ (lastSection ++ ['\n']))

/-- What is written from the table on. -/
def fromTable (table : Option (Text × List (Text × Value))) (fs : List BoundFunction) : Text :=
  (table.toList.flatMap fun t => gap ++ constantSection t.1 t.2) ++ fromFunctions fs

/-- What is written from the headers on. -/
def fromHeaders (hs : List Text) (table : Option (Text × List (Text × Value)))
    (fs : List BoundFunction) : Text :=
  (if hs = [] then [] else gap ++ headerSection hs) ++ fromTable table fs

theorem fromFunctions_cons (f : BoundFunction) (fs : List BoundFunction) :
    fromFunctions (f :: fs) = gap ++ (bindingSection f ++ fromFunctions fs) := by
  simp only [fromFunctions, List.flatMap_cons, List.append_assoc]

theorem fromTable_some (t : Text × List (Text × Value)) (fs : List BoundFunction) :
    fromTable (some t) fs = gap ++ (constantSection t.1 t.2 ++ fromFunctions fs) := by
  simp [fromTable]

theorem fromTable_none (fs : List BoundFunction) : fromTable none fs = fromFunctions fs := rfl

theorem fromHeaders_nil (table : Option (Text × List (Text × Value))) (fs : List BoundFunction) :
    fromHeaders [] table fs = fromTable table fs := rfl

theorem fromHeaders_cons (h : Text) (hs : List Text)
    (table : Option (Text × List (Text × Value))) (fs : List BoundFunction) :
    fromHeaders (h :: hs) table fs =
      gap ++ (headerSection (h :: hs) ++ fromTable table fs) := by
  simp [fromHeaders]

theorem render_eq (d : Document) :
    d.render =
      commentSection d.moduleName d.headers ++ fromHeaders d.headers d.table d.bindings := by
  have hrender : d.render = join gap d.sections ++ ['\n'] := rfl
  have hheaders : (if d.headers = [] then [] else [headerSection d.headers]).flatMap (gap ++ ·) =
      if d.headers = [] then [] else gap ++ headerSection d.headers := by
    split_ifs
    · rfl
    · exact List.append_nil _
  rw [hrender, Document.sections, List.cons_append, List.cons_append, List.cons_append, join_cons]
  simp only [List.flatMap_append, hheaders, List.flatMap_map, List.append_assoc, List.flatMap_cons,
    List.flatMap_nil, List.append_nil, fromHeaders, fromTable, fromFunctions]

/-- Something always follows the comment. -/
theorem exists_fromHeaders (hs : List Text) (table : Option (Text × List (Text × Value)))
    (fs : List BoundFunction) : ∃ t, fromHeaders hs table fs = gap ++ t := by
  cases hs with
  | cons h hs => exact ⟨_, fromHeaders_cons h hs table fs⟩
  | nil =>
    cases table with
    | some t => exact ⟨_, fromTable_some t fs⟩
    | none =>
      cases fs with
      | nil => exact ⟨_, rfl⟩
      | cons f fs => exact ⟨_, fromFunctions_cons f fs⟩

/-! ### The comment -/

def titleLine (moduleName : Text) : Text :=
  ['#', ' '] ++ (moduleName ++ " bindings generated by cvbindgen. Do not edit.".toList)

def sourceLine (hs : List Text) : Text := '#' :: (" Sources: ".toList ++ join [',', ' '] hs)

theorem commentSection_append (moduleName : Text) (hs : List Text) (r : Text) :
    commentSection moduleName hs ++ '\n' :: r =
      titleLine moduleName ++ '\n' :: (sourceLine hs ++ '\n' :: r) := by
  have hend : " bindings generated by cvbindgen. Do not edit.\n".toList =
      " bindings generated by cvbindgen. Do not edit.".toList ++ ['\n'] := rfl
  unfold commentSection titleLine
  rw [hend]
  simp only [List.append_assoc]
  rfl

theorem afterComments_section {moduleName : Text} {hs : List Text} (hm : '\n' ∉ moduleName)
    (hh : ∀ h ∈ hs, '\n' ∉ h) (t : Text) :
    afterComments (commentSection moduleName hs ++ (gap ++ t)) = gap ++ t := by
  have htitle : '\n' ∉ titleLine moduleName := by
    rw [titleLine, List.mem_append, List.mem_append, not_or, not_or]
    exact ⟨by decide, hm, by decide⟩
  have hsource : '\n' ∉ sourceLine hs := by
    rw [sourceLine, List.mem_cons, List.mem_append, not_or, not_or]
    exact ⟨by decide, by decide, not_mem_join (by decide) hh⟩
  have hlines : lines (commentSection moduleName hs ++ (gap ++ t)) =
      titleLine moduleName :: sourceLine hs :: lines ('\n' :: t) := by
    have hcut := commentSection_append moduleName hs ('\n' :: t)
    rw [← lines_append hsource, ← lines_append htitle, ← hcut]
    rfl
  rw [afterComments, hlines]
  exact flatMap_lines ('\n' :: t)

/-! ### The sections -/

theorem readFunctions_fromFunctions {fs : List BoundFunction} (h : ∀ f ∈ fs, IsWordText f.name) :
    readFunctions (fromFunctions fs) =
      (fs.map Entry.ofFunction, gap ++ (lastSection ++ ['\n'])) := by
  induction fs with
  | nil =>
    have hlast : function? (fromFunctions []) = none := function?_last ['\n']
    rw [readFunctions]
    split
    · rfl
    · next hread => rw [hlast] at hread; cases hread
  | cons f fs ih =>
    obtain ⟨hf, hfs⟩ := List.forall_mem_cons.mp h
    have hfirst := function?_section hf (fromFunctions fs)
    rw [readFunctions, fromFunctions_cons]
    split
    · next hread => rw [hfirst] at hread; cases hread
    · next e r hread =>
      rw [hfirst] at hread
      obtain ⟨rfl, rfl⟩ := Prod.mk.inj (Option.some.inj hread)
      rw [ih hfs]
      rfl

theorem optional_of_eq_none {α : Type} {read : Text → Option (α × Text)} {t : Text}
    (h : read t = none) : optional read t = (none, t) := by
  rw [optional, h]

theorem optional_of_eq_some {α : Type} {read : Text → Option (α × Text)} {t : Text} {p : α × Text}
    (h : read t = some p) : optional read t = (some p.1, p.2) := by
  rw [optional, h]

/-- A table as it is read. -/
def readTable (t : Text × List (Text × Value)) : Text × List (Text × Constant.Number) :=
  (t.1, t.2.map fun e => (e.1, e.2.number))

theorem optional_fromTable {table : Option (Text × List (Text × Value))} (fs : List BoundFunction)
    (h : ∀ t ∈ table, isIdentifier t.1 = true ∧ ∀ e ∈ t.2, isName e.1 = true) :
    optional table? (fromTable table fs) = (table.map readTable, fromFunctions fs) := by
  cases table with
  | some t =>
    obtain ⟨hn, he⟩ := h t rfl
    rw [fromTable_some, optional_of_eq_some (table?_section hn he (fromFunctions fs))]
    rfl
  | none =>
    rw [fromTable_none]
    refine optional_of_eq_none ?_
    cases fs with
    | nil => exact table?_last ['\n']
    | cons f fs =>
      rw [fromFunctions_cons]
      exact table?_binding f (fromFunctions fs)

theorem optional_fromHeaders {hs : List Text} (table : Option (Text × List (Text × Value)))
    (fs : List BoundFunction) (h : ∀ header ∈ hs, '\n' ∉ header) :
    ∃ found, optional headers? (fromHeaders hs table fs) = (found, fromTable table fs) ∧
      found.getD [] = hs := by
  cases hs with
  | cons header hs =>
    rw [fromHeaders_cons, optional_of_eq_some (headers?_section h (fromTable table fs))]
    exact ⟨_, rfl, rfl⟩
  | nil =>
    -- the text goes on with the first section that is there, which is none of headers
    rw [fromHeaders_nil]
    refine ⟨none, optional_of_eq_none ?_, rfl⟩
    cases table with
    | some t =>
      rw [fromTable_some]
      exact headers?_constants t.1 t.2 (fromFunctions fs)
    | none =>
      rw [fromTable_none]
      cases fs with
      | nil => exact headers?_last ['\n']
      | cons f fs =>
        rw [fromFunctions_cons]
        exact headers?_binding f (fromFunctions fs)

/-! ### Whole documents -/

/-- A document of which no part can be taken for the end of its section. -/
structure Document.IsPlain (d : Document) : Prop where
  moduleName : '\n' ∉ d.moduleName
  headers : ∀ h ∈ d.headers, '\n' ∉ h
  table : ∀ t ∈ d.table, isIdentifier t.1 = true ∧ ∀ e ∈ t.2, isName e.1 = true
  bindings : ∀ f ∈ d.bindings, IsWordText f.name

/-- What a document says. -/
def Document.contents (d : Document) : Contents :=
  ⟨d.headers, d.table.map readTable, d.bindings.map Entry.ofFunction⟩

/-- A plain document is read back whole. -/
theorem Document.IsPlain.read?_render {d : Document} (h : d.IsPlain) :
    Contents.read? d.render = some d.contents := by
  obtain ⟨t, ht⟩ := exists_fromHeaders d.headers d.table d.bindings
  have hcomment : afterComments d.render = fromHeaders d.headers d.table d.bindings := by
    rw [render_eq, ht]
    exact afterComments_section h.moduleName h.headers t
  obtain ⟨found, hheaders, hfound⟩ := optional_fromHeaders d.table d.bindings h.headers
  have htable := optional_fromTable d.bindings h.table
  have hfunctions := readFunctions_fromFunctions h.bindings
  have hlast : afterWords? ["pp_done", "(", ")", ";"] (gap ++ (lastSection ++ ['\n'])) =
      some ['\n'] := rfl
  have hend : skipBlanks ['\n'] = [] := rfl
  simp only [Contents.read?, hcomment, hheaders, htable, hfunctions, hlast, Option.bind_eq_bind,
    Option.bind_some, hend, if_true, hfound]
  rfl

/-! ### Documents of runs -/

theorem newline_not_mem_baseName {header : Text} (h : '\n' ∉ header) : '\n' ∉ baseName header := by
  intro hc
  unfold baseName Files.Path.name at hc
  cases hlast : (Files.Path.ofText header).parts.getLast? with
  | none =>
    rw [hlast] at hc
    cases hc
  | some p =>
    rw [hlast] at hc
    have hp : p ∈ (splitOn '/' header).filter fun p => p ≠ [] && p ≠ ['.'] :=
      List.mem_of_mem_getLast? hlast
    exact h (mem_of_mem_splitOn (List.mem_filter.mp hp).1 '\n' hc)

section Runs
variable {g : Generator} {tree : Files.Tree} {inputs : List Text} {log : List Log.Event}
  {r : Binding.Result} (hrun : g.run tree inputs = ⟨log, .ok r⟩)
include hrun

/-- The document of a run is plain, since declarations and constants have names. -/
theorem isPlain_ofResult {tableName : Text} (ht : g.tableName = .text tableName)
    (hid : isIdentifier tableName = true) (name : Datum) {moduleName : Text}
    (hm : '\n' ∉ moduleName) {headers : List Text} (hh : ∀ h ∈ headers, '\n' ∉ h) :
    { Document.ofResult r headers name with moduleName := moduleName }.IsPlain where
  moduleName := hm
  headers := by
    intro b hb
    obtain ⟨h, hmem, rfl⟩ := List.mem_map.mp hb
    exact newline_not_mem_baseName (hh h hmem)
  table := by
    intro t hmem
    obtain ⟨exported, he, rfl⟩ := Option.map_eq_some_iff.mp (Option.mem_def.mp hmem)
    rw [Binding.exported_of_run hrun exported he, ht]
    exact ⟨hid, Binding.isName_of_mem_constants hrun⟩
  bindings := Binding.isWordText_name_of_run hrun

/-- The module of a run is read back whole, whatever name of one line stands in its comment. -/
theorem read?_render_ofResult {tableName : Text} (ht : g.tableName = .text tableName)
    (hid : isIdentifier tableName = true) (name : Datum) {moduleName : Text}
    (hm : '\n' ∉ moduleName) {headers : List Text} (hh : ∀ h ∈ headers, '\n' ∉ h) :
    Contents.read? { Document.ofResult r headers name with moduleName := moduleName }.render =
      some {
        headers := headers.map baseName
        table := r.exported.map fun t =>
          (tableName, t.entries.map fun e => (e.1, e.2.number))
        functions := r.bindings.map Entry.ofFunction } := by
  have htable : (Document.ofResult r headers name).table.map readTable =
      r.exported.map fun t => (tableName, t.entries.map fun e => (e.1, e.2.number)) := by
    rw [Document.ofResult, Option.map_map]
    refine Option.map_congr fun t hmem => ?_
    have hname : t.name = .text tableName := by
      rw [Binding.exported_of_run hrun t hmem, ht]
    simp [readTable, hname, Datum.toText]
  rw [(isPlain_ofResult hrun ht hid name hm hh).read?_render, Document.contents, htable]
  rfl

end Runs

/-- A generator with the built-in types and two instantiations. -/
def twoTypes : Generator where
  exportMark := .text ['E']
  rules := ⟨.text "cv".toList, "res".toList, true, .standard, [.byte, .float]⟩
  expander := fun _ names => ⟨[], .ok (names.map fun _ => "-10".toList)⟩
  constantsRequired := true
  tableName := .text "Limits".toList

/-- A constant and a function with a matrix. -/
def matrixTree : Files.Tree :=
  ⟨[], [], [([['a']], Text.Utf8.encode "#define K x\nE(void) cvFlip(CvMat* m);".toList)], []⟩

theorem read?_render_twoTypes : ∃ log r, twoTypes.run matrixTree [['a']] = ⟨log, .ok r⟩ ∧
    r.bindings.map (·.name) = ["Flip".toList] ∧
    Contents.read? { Document.ofResult r ["cv/a.h".toList] .null with moduleName := ['M'] }.render =
      some ⟨["a.h".toList], some ("Limits".toList, [(['K'], .int (-10))]),
        r.bindings.map Entry.ofFunction⟩ := by
  have hs : (twoTypes.run matrixTree [['a']]).result.toOption.map (fun r =>
      (r.bindings.map (·.name), r.exported.map fun t => t.entries.map fun e => (e.1, e.2.number))) =
        some (["Flip".toList], some [(['K'], .int (-10))]) := by decide +kernel
  rcases hrun : twoTypes.run matrixTree [['a']] with ⟨log, e | r⟩
  · rw [hrun] at hs
    cases hs
  · rw [hrun] at hs
    obtain ⟨hnames, hexported⟩ := Prod.mk.inj (Option.some.inj hs)
    have hname : twoTypes.tableName = .text "Limits".toList := rfl
    have htable : (r.exported.map fun t =>
        ("Limits".toList, t.entries.map fun e => (e.1, e.2.number))) =
          some ("Limits".toList, [(['K'], .int (-10))]) := by
      have hpair := congrArg (Option.map (Prod.mk "Limits".toList)) hexported
      rwa [Option.map_map] at hpair
    refine ⟨log, r, rfl, hnames, ?_⟩
    rw [read?_render_ofResult hrun hname (by decide) .null (by decide) (by decide), htable]
    rfl

end HeaderBindings.PerlModule
