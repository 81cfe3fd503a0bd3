import HeaderBindings.PerlModule.Basic
import HeaderBindings.Proofs.Constant.Writing
import HeaderBindings.Proofs.PerlModule.Quoting
import HeaderBindings.Proofs.Text.Lines

/-!
# Reading modules

A reader of modules goes from section to section: it skips the comment lines, reads the literal
with the includes, the here-document with the constants, and one definition after another, and it
ends with the last line. The sections of headers and of constants may be missing. Of each section
there is one lemma: what was written is read, whatever follows.
-/
namespace HeaderBindings.PerlModule

open Binding (BoundFunction)
open Call (Instantiation)
open Constant (Number Value)
open Text

/-! ### Tokens -/

/-- What follows some words that stand one after another, with blanks allowed before each. -/
def afterWords? : List String → Text → Option Text
  | [], t => some t
  | w :: ws, t => (dropPrefix? w.toList (skipBlanks t)).bind (afterWords? ws)

/-- A quoted literal, with blanks allowed before it. -/
def literal? (t : Text) : Option (Text × Text) := readLiteral? (skipBlanks t)

/-- A text in single quotes, with blanks allowed before it. One with a backslash is not read. -/
def singleQuoted? (t : Text) : Option (Text × Text) := do
  let r ← dropPrefix? ['\''] (skipBlanks t)
  let (name, r) ← cutAt? '\'' r
  if name.contains '\\' then none else some (name, r)

/-- What stands between a given beginning and a given last character. -/
def between? (start : Text) (last : Char) (t : Text) : Option Text := do
  let r ← dropPrefix? start t
  if r.getLast? = some last then some r.dropLast else none

/-- What follows the lines at the start that begin with a number sign, from a line feed on. -/
def afterComments (t : Text) : Text :=
  ((lines t).dropWhile fun l => l.head? = some '#').flatMap ('\n' :: ·)

/-- The lines before the first that is the mark, and what follows that one from its line feed on. -/
def hereDocument? (mark t : Text) : Option (List Text × Text) :=
  match (lines t).dropWhile (· ≠ mark) with
  | [] => none
  | _ :: rest => some ((lines t).takeWhile (· ≠ mark), rest.flatMap ('\n' :: ·))

/-! ### Sections -/

def includeStart : Text := "#include \"".toList

/-- The headers that a module includes. -/
def headers? (t : Text) : Option (List Text × Text) := do
  let r ← afterWords? ["pp_addhdr", "("] t
  let (content, r) ← literal? r
  let headers ← ((lines content).filter (· ≠ [])).mapM (between? includeStart '"')
  let r ← afterWords? [")", ";"] r
  some (headers, r)

/-- The name of the table that a line opens. -/
def tableName? (line : Text) : Option Text := do
  let r ← afterWords? ["our", "%"] line
  let rest ← afterWords? ["=", "("] (r.dropWhile continuesIdentifier)
  if rest = [] then some (r.takeWhile continuesIdentifier) else none

/-- The entry of a table on one line. -/
def constant? (line : Text) : Option (Text × Number) := do
  let (name, r) ← readName? (skipBlanks line)
  let r ← afterWords? ["=>"] r
  let (value, r) ← cutAt? ',' (skipBlanks r)
  if skipBlanks r = [] then some (name, Number.ofText value) else none

/-- A table of constants with its name, from the line that opens it to the one that closes it. -/
def constants? : List Text → Option (Text × List (Text × Number))
  | [] => none
  | line :: ls => do
    let name ← tableName? line
    let entries ← ls.dropLast.mapM constant?
    if ls.getLast? = some ");".toList then some (name, entries) else none

/-- The table of constants that a module exports. -/
def table? (t : Text) : Option ((Text × List (Text × Number)) × Text) := do
  let r ← afterWords? ["pp_addpm", "(", "<<'EOPM'", ")", ";"] t
  let r ← dropPrefix? ['\n'] r
  let (body, r) ← hereDocument? "EOPM".toList r
  let table ← constants? body
  let r ← afterWords? ["pp_add_exported", "(", "''", ","] r
  let (exported, r) ← singleQuoted? r
  let r ← afterWords? [")", ";"] r
  if exported = '%' :: table.1 then some (table, r) else none

/-- What a module says of one function. -/
structure Entry where
  name : Text
  parameters : Text
  instantiations : List Instantiation
  code : Text
  doc : Text
deriving DecidableEq, Repr

def Entry.ofFunction (f : BoundFunction) : Entry :=
  ⟨f.name, f.parameters, f.instantiations, f.code, f.doc⟩

/-- What stands behind some words. -/
def field? {α : Type} (ws : List String) (read : Text → Option (α × Text)) (t : Text) :
    Option (α × Text) :=
  (afterWords? ws t).bind read

/-- The instantiations whose letters stand before a closing parenthesis. -/
def letters? (t : Text) : Option (List Instantiation × Text) := do
  let (letters, r) ← cutAt? ')' t
  let instantiations ← (words letters).mapM Instantiation.ofLetter?
  some (instantiations, r)

/-- A quoted literal on lines of its own. -/
def block? (t : Text) : Option (Text × Text) := do
  let (framed, r) ← literal? t
  let code ← between? ['\n'] '\n' framed
  some (code, r)

/-- The definition of one function. -/
def function? (t : Text) : Option (Entry × Text) := do
  let (name, r) ← field? ["pp_def", "("] singleQuoted? t
  let (parameters, r) ← field? [",", "Pars", "=>"] literal? r
  let (instantiations, r) ← field? [",", "GenericTypes", "=>", "[", "qw("] letters? r
  let (code, r) ← field? ["]", ",", "Code", "=>"] block? r
  let (doc, r) ← field? [",", "Doc", "=>"] literal? r
  let r ← afterWords? [",", ")", ";"] r
  some (⟨name, parameters, instantiations, code, doc⟩, r)

/-! ### Each definition is shorter than the text -/

theorem length_afterWords? {ws : List String} {t r : Text} (h : afterWords? ws t = some r) :
    r.length + (ws.map fun w => w.toList.length).sum ≤ t.length := by
  induction ws generalizing t with
  | nil =>
    obtain rfl := Option.some.inj h
    simp
  | cons w ws ih =>
    obtain ⟨u, hu, hr⟩ := Option.bind_eq_some_iff.mp h
    have hlen := congrArg List.length (dropPrefix?_eq_some_iff.mp hu)
    have hskip := length_skipBlanks_le t
    have htail := ih hr
    simp only [List.length_append] at hlen
    simp only [List.map_cons, List.sum_cons]
    omega

theorem length_cutAt? {c : Char} {t : Text} {p : Text × Text} (h : cutAt? c t = some p) :
    p.2.length ≤ t.length := by
  have hlen := congrArg List.length (cutAt?_eq h)
  simp only [List.length_append, List.length_cons] at hlen
  omega

theorem length_readBody? {depth : ℕ} {t : Text} {p : Text × Text}
    (h : readBody? depth t = some p) : p.2.length ≤ t.length := by
  fun_induction readBody? depth t generalizing p with
  | case1 => cases h
  | case5 =>
    obtain rfl := Option.some.inj h
    simp
  | case2 _ _ _ _ ih | case3 _ _ _ _ ih | case4 _ _ _ ih | case6 _ _ _ _ ih
  | case7 _ _ _ _ _ _ ih =>
    obtain ⟨q, hq, rfl⟩ := Option.map_eq_some_iff.mp h
    have hlen := ih hq
    simp only [prepend, List.length_cons] at hlen ⊢
    omega

theorem length_literal? {t : Text} {p : Text × Text} (h : literal? t = some p) :
    p.2.length ≤ t.length := by
  obtain ⟨u, hu, hp⟩ := Option.bind_eq_some_iff.mp h
  have hlen := congrArg List.length (dropPrefix?_eq_some_iff.mp hu)
  have hskip := length_skipBlanks_le t
  have hbody := length_readBody? hp
  simp only [List.length_append] at hlen
  omega

theorem length_singleQuoted? {t : Text} {p : Text × Text} (h : singleQuoted? t = some p) :
    p.2.length ≤ t.length := by
  simp only [singleQuoted?, Option.bind_eq_bind, Option.bind_eq_some_iff] at h
  obtain ⟨u, hu, q, hq, hp⟩ := h
  have hlen := congrArg List.length (dropPrefix?_eq_some_iff.mp hu)
  have hskip := length_skipBlanks_le t
  have hcut := length_cutAt? hq
  split_ifs at hp
  obtain rfl := Option.some.inj hp
  simp only [List.length_append] at hlen ⊢
  omega

theorem length_letters? {t : Text} {p : List Instantiation × Text} (h : letters? t = some p) :
    p.2.length ≤ t.length := by
  simp only [letters?, Option.bind_eq_bind, Option.bind_eq_some_iff, Option.some.injEq] at h
  obtain ⟨q, hq, is, -, rfl⟩ := h
  have hlen := length_cutAt? hq
  exact hlen

theorem length_block? {t : Text} {p : Text × Text} (h : block? t = some p) :
    p.2.length ≤ t.length := by
  simp only [block?, Option.bind_eq_bind, Option.bind_eq_some_iff, Option.some.injEq] at h
  obtain ⟨q, hq, code, -, rfl⟩ := h
  have hlen := length_literal? hq
  exact hlen

theorem length_field? {α : Type} {ws : List String} {read : Text → Option (α × Text)}
    (hread : ∀ {t p}, read t = some p → p.2.length ≤ t.length) {t : Text} {p : α × Text}
    (h : field? ws read t = some p) :
    p.2.length + (ws.map fun w => w.toList.length).sum ≤ t.length := by
  obtain ⟨r, hr, hp⟩ := Option.bind_eq_some_iff.mp h
  have hwords := length_afterWords? hr
  have htail := hread hp
  omega

theorem length_function? {t r : Text} {e : Entry} (h : function? t = some (e, r)) :
    r.length < t.length := by
  simp only [function?, Option.bind_eq_bind, Option.bind_eq_some_iff, Option.some.injEq,
    Prod.mk.injEq] at h
  obtain ⟨p₁, h₁, p₂, h₂, p₃, h₃, p₄, h₄, p₅, h₅, r₆, h₆, -, rfl⟩ := h
  have e₁ : p₁.2.length < t.length := by
    have hlen := length_field? length_singleQuoted? h₁
    have hsum : 0 < (["pp_def", "("].map fun w => w.toList.length).sum := by decide
    omega
  have e₂ := length_field? length_literal? h₂
  have e₃ := length_field? length_letters? h₃
  have e₄ := length_field? length_block? h₄
  have e₅ := length_field? length_literal? h₅
  have e₆ := length_afterWords? h₆
  omega

/-- The definitions at the start of a text, and what follows them. -/
def readFunctions (t : Text) : List Entry × Text :=
  match _h : function? t with
  | none => ([], t)
  | some (e, r) => (e :: (readFunctions r).1, (readFunctions r).2)
termination_by t.length
decreasing_by all_goals exact length_function? _h

/-! ### Whole modules -/

/-- What a module says. -/
structure Contents where
  headers : List Text
  table : Option (Text × List (Text × Number))
  functions : List Entry
deriving DecidableEq, Repr

/-- What is read at the start of a text, if anything, and what follows it. -/
def optional {α : Type} (read : Text → Option (α × Text)) (t : Text) : Option α × Text :=
  match read t with
  | none => (none, t)
  | some (a, r) => (some a, r)

def Contents.read? (t : Text) : Option Contents := do
  let (headers, r) := optional headers? (afterComments t)
  let (table, r) := optional table? r
  let (functions, r) := readFunctions r
  let r ← afterWords? ["pp_done", "(", ")", ";"] r
  if skipBlanks r = [] then some ⟨headers.getD [], table, functions⟩ else none

/-! ### Tokens as they are written -/

theorem literal?_quote (t r : Text) : literal? (quote t ++ r) = some (t, r) := by
  rw [quote_append]
  exact readBody?_quotedBody t r

theorem singleQuoted?_append {t : Text} (hq : '\'' ∉ t) (hb : '\\' ∉ t) (r : Text) :
    singleQuoted? ('\'' :: (t ++ '\'' :: r)) = some (t, r) := by
  have hskip : skipBlanks ('\'' :: (t ++ '\'' :: r)) = ['\''] ++ (t ++ '\'' :: r) := rfl
  rw [singleQuoted?, hskip, dropPrefix?_append]
  simp [cutAt?_append hq, hb]

theorem between?_append (start t : Text) (last : Char) :
    between? start last (start ++ (t ++ [last])) = some t := by
  simp [between?]

/-- The empty line between two sections. -/
def gap : Text := ['\n', '\n']

/-! ### Headers -/

def includeLine (header : Text) : Text := includeStart ++ (header ++ ['"'])

theorem includeLine_ne_nil (header : Text) : includeLine header ≠ [] := by
  rw [includeLine]
  exact List.append_ne_nil_of_left_ne_nil (by decide) _

theorem newline_not_mem_includeLine {header : Text} (h : '\n' ∉ header) :
    '\n' ∉ includeLine header := by
  rw [includeLine, List.mem_append, List.mem_append, not_or, not_or]
  exact ⟨by decide, h, by decide⟩

theorem headerSection_append (hs : List Text) (r : Text) :
    headerSection hs ++ r = "pp_addhdr(".toList ++
      (quote ('\n' :: (hs.map includeLine).flatMap (· ++ ['\n'])) ++ (");".toList ++ r)) := by
  have hline (header : Text) : includeLine header ++ ['\n'] =
      "#include \"".toList ++ header ++ ['"', '\n'] := by
    rw [includeLine, List.append_assoc, List.append_assoc]
    rfl
  unfold headerSection
  simp only [List.flatMap_map, hline, List.append_assoc]

/-- The lines of the includes, without the empty lines around them. -/
theorem filter_lines_includes {hs : List Text} (h : ∀ header ∈ hs, '\n' ∉ header) :
    (lines ('\n' :: (hs.map includeLine).flatMap (· ++ ['\n']))).filter (· ≠ []) =
      hs.map includeLine := by
  have hline : ∀ l ∈ hs.map includeLine, '\n' ∉ l := by
    intro l hl
    obtain ⟨header, hm, rfl⟩ := List.mem_map.mp hl
    exact newline_not_mem_includeLine (h header hm)
  have hne : ∀ l ∈ hs.map includeLine, decide (l ≠ []) = true := by
    intro l hl
    obtain ⟨header, -, rfl⟩ := List.mem_map.mp hl
    exact decide_eq_true (includeLine_ne_nil header)
  have hcut : lines ('\n' :: (hs.map includeLine).flatMap (· ++ ['\n'])) =
      [] :: (hs.map includeLine ++ [[]]) := by
    have hlines := lines_flatMap_append hline []
    rw [List.append_nil] at hlines
    exact congrArg ([] :: ·) hlines
  rw [hcut, List.filter_cons_of_neg (by decide), List.filter_append, List.filter_eq_self.mpr hne]
  exact List.append_nil _

theorem headers?_section {hs : List Text} (h : ∀ header ∈ hs, '\n' ∉ header) (r : Text) :
    headers? (gap ++ (headerSection hs ++ r)) = some (hs, r) := by
  -- words are fixed texts, so what is read of them comes out by computing
  have hopen (t : Text) :
      afterWords? ["pp_addhdr", "("] (gap ++ ("pp_addhdr(".toList ++ t)) = some t := rfl
  have hclose (t : Text) : afterWords? [")", ";"] (");".toList ++ t) = some t := rfl
  have hline (header : Text) : between? includeStart '"' (includeLine header) = some header :=
    between?_append includeStart header '"'
  have hread : (hs.map includeLine).mapM (between? includeStart '"') = some hs := by
    have hmap := mapM_map_eq_some (f := id) fun header (_ : header ∈ hs) => hline header
    rwa [List.map_id] at hmap
  rw [headerSection_append, headers?, hopen]
  simp only [Option.bind_eq_bind, Option.bind_some, literal?_quote, filter_lines_includes h,
    hread, hclose]

/-! ### Constants -/

theorem hereDocument?_append {mark : Text} {ls : List Text} (hm : '\n' ∉ mark)
    (hls : ∀ l ∈ ls, '\n' ∉ l ∧ l ≠ mark) (r : Text) :
    hereDocument? mark ((ls ++ [mark]).flatMap (· ++ ['\n']) ++ r) = some (ls, '\n' :: r) := by
  have hlines : lines ((ls ++ [mark]).flatMap (· ++ ['\n']) ++ r) = ls ++ mark :: lines r := by
    have hfree : ∀ l ∈ ls ++ [mark], '\n' ∉ l :=
      List.forall_mem_append.mpr ⟨fun l hl => (hls l hl).1, by simpa using hm⟩
    rw [lines_flatMap_append hfree, List.append_assoc]
    rfl
  have hne : ∀ l ∈ ls, decide (l ≠ mark) = true := fun l hl => decide_eq_true (hls l hl).2
  have hdrop : (ls ++ mark :: lines r).dropWhile (· ≠ mark) = mark :: lines r := by
    rw [List.dropWhile_append_of_pos hne, List.dropWhile_cons_of_neg (by simp)]
  have htake : (ls ++ mark :: lines r).takeWhile (· ≠ mark) = ls := by
    rw [List.takeWhile_append_of_pos hne, List.takeWhile_cons_of_neg (by simp), List.append_nil]
  rw [hereDocument?, hlines, hdrop, htake]
  simp only [flatMap_lines]

def openingLine (name : Text) : Text := "our %".toList ++ (name ++ " = (".toList)

theorem continuesIdentifier_of_isIdentifier {t : Text} (h : isIdentifier t = true) :
    ∀ c ∈ t, continuesIdentifier c = true := by
  cases t with
  | nil => cases h
  | cons c r =>
    obtain ⟨hc, hr⟩ := (Bool.and_eq_true _ _).mp h
    refine List.forall_mem_cons.mpr ⟨?_, List.all_eq_true.mp hr⟩
    simp [continuesIdentifier, hc]

theorem not_mem_of_isIdentifier {t : Text} (h : isIdentifier t = true) {c : Char}
    (hc : continuesIdentifier c = false) : c ∉ t := by
  intro hm
  rw [continuesIdentifier_of_isIdentifier h c hm] at hc
  cases hc

theorem tableName?_openingLine {name : Text} (h : isIdentifier name = true) :
    tableName? (openingLine name) = some name := by
  have hn := continuesIdentifier_of_isIdentifier h
  have hopen (t : Text) : afterWords? ["our", "%"] ("our %".toList ++ t) = some t := rfl
  have hrest : afterWords? ["=", "("] " = (".toList = some [] := rfl
  have hdrop : (name ++ " = (".toList).dropWhile continuesIdentifier = " = (".toList := by
    rw [List.dropWhile_append_of_pos hn]
    rfl
  have htake : (name ++ " = (".toList).takeWhile continuesIdentifier = name := by
    rw [List.takeWhile_append_of_pos hn]
    exact List.append_nil name
  unfold openingLine
  rw [tableName?, hopen]
  simp only [Option.bind_eq_bind, Option.bind_some, hdrop, htake, hrest, if_true]

theorem constant?_constantLine {e : Text × Value} (h : isName e.1 = true) :
    constant? (constantLine e) = some (e.1, e.2.number) := by
  obtain ⟨name, v⟩ := e
  have hchars : ∀ c ∈ Constant.numberChars, isBlank c = false := by decide
  have hblank : ∀ c ∈ v.write ++ [','], isBlank c = false :=
    List.forall_mem_append.mpr ⟨fun c hc => hchars c (v.mem_numberChars c hc), by decide⟩
  have hcomma : ',' ∉ v.write := v.not_mem_write (by decide)
  have hstart (t : Text) : skipBlanks ("    ".toList ++ (name ++ t)) = name ++ t := by
    obtain ⟨c, r, rfl, hc, -⟩ := isName_iff.mp h
    exact skipBlanks_cons_of_not (isBlank_of_isWord (isWord_of_isNameStart hc)) _
  have hname (t : Text) :
      readName? (name ++ (" => ".toList ++ t)) = some (name, " => ".toList ++ t) :=
    readName?_name_append h rfl
  have harrow (t : Text) : afterWords? ["=>"] (" => ".toList ++ t) = some (' ' :: t) := rfl
  have hvalue : skipBlanks (' ' :: (v.write ++ [','])) = v.write ++ [','] :=
    skipBlanks_eq_self hblank
  have hend : skipBlanks [] = [] := rfl
  have hline : constantLine (name, v) =
      "    ".toList ++ (name ++ (" => ".toList ++ (v.write ++ [',']))) := by
    unfold constantLine
    simp only [List.append_assoc]
  rw [hline, constant?, hstart, hname]
  simp only [Option.bind_eq_bind, Option.bind_some, harrow, hvalue, cutAt?_append hcomma, hend,
    if_true, Number.ofText_write]

/-- The lines between the opening of a here-document and its mark. -/
def tableLines (name : Text) (es : List (Text × Value)) : List Text :=
  openingLine name :: (es.map constantLine ++ [");".toList])

theorem constants?_tableLines {name : Text} {es : List (Text × Value)}
    (hn : isIdentifier name = true) (he : ∀ e ∈ es, isName e.1 = true) :
    constants? (tableLines name es) = some (name, es.map fun e => (e.1, e.2.number)) := by
  have hread := mapM_map_eq_some fun e h => constant?_constantLine (he e h)
  rw [tableLines, constants?]
  simp [tableName?_openingLine hn, hread]

/-- The lines of a table have no line feed, and by their first character none is the mark. -/
theorem mem_tableLines {name : Text} {es : List (Text × Value)}
    (hn : isIdentifier name = true) (he : ∀ e ∈ es, isName e.1 = true) :
    ∀ l ∈ tableLines name es, '\n' ∉ l ∧ l ≠ "EOPM".toList := by
  unfold tableLines
  refine List.forall_mem_cons.mpr ⟨⟨?_, ?_⟩, List.forall_mem_append.mpr ⟨?_, by decide⟩⟩
  · have hfree : '\n' ∉ name := not_mem_of_isIdentifier hn (by decide)
    unfold openingLine
    rw [List.mem_append, List.mem_append, not_or, not_or]
    exact ⟨by decide, hfree, by decide⟩
  · intro h
    have hhead : (openingLine name).head? = some 'o' := rfl
    rw [h] at hhead
    cases hhead
  · intro l hl
    obtain ⟨⟨name, v⟩, hm, rfl⟩ := List.mem_map.mp hl
    refine ⟨?_, fun h => ?_⟩
    · have hname : '\n' ∉ name := (IsWordText.of_isName (he _ hm)).not_mem (by decide)
      have hvalue : '\n' ∉ v.write := v.not_mem_write (by decide)
      unfold constantLine
      simp only [List.mem_append, not_or]
      exact ⟨⟨⟨⟨by decide, hname⟩, by decide⟩, hvalue⟩, by decide⟩
    · have hhead : (constantLine (name, v)).head? = some ' ' := rfl
      rw [h] at hhead
      cases hhead

theorem constantSection_append (name : Text) (es : List (Text × Value)) (r : Text) :
    constantSection name es ++ r = "pp_addpm(<<'EOPM');\n".toList ++
      ((tableLines name es ++ ["EOPM".toList]).flatMap (· ++ ['\n']) ++
        ("pp_add_exported('', ".toList ++
          ('\'' :: (('%' :: name) ++ '\'' :: (");".toList ++ r))))) := by
  have hlines : constantSection name es = join ['\n']
      ("pp_addpm(<<'EOPM');".toList :: (tableLines name es ++ ["EOPM".toList]) ++
        ["pp_add_exported('', '%".toList ++ name ++ "');".toList]) := by
    unfold constantSection tableLines openingLine
    simp only [List.cons_append, List.nil_append, List.append_assoc]
  have hopen : "pp_addpm(<<'EOPM');".toList ++ ['\n'] = "pp_addpm(<<'EOPM');\n".toList := rfl
  have hsign : "pp_add_exported('', '%".toList = "pp_add_exported('', ".toList ++ ['\'', '%'] := rfl
  have hclose : "');".toList = '\'' :: ");".toList := rfl
  rw [hlines, join_concat, List.flatMap_cons, hopen, hsign, hclose]
  simp only [List.append_assoc]
  rfl

theorem table?_section {name : Text} {es : List (Text × Value)}
    (hn : isIdentifier name = true) (he : ∀ e ∈ es, isName e.1 = true) (r : Text) :
    table? (gap ++ (constantSection name es ++ r)) =
      some ((name, es.map fun e => (e.1, e.2.number)), r) := by
  have hopen (t : Text) : afterWords? ["pp_addpm", "(", "<<'EOPM'", ")", ";"]
      (gap ++ ("pp_addpm(<<'EOPM');\n".toList ++ t)) = some (['\n'] ++ t) := rfl
  have hexport (t : Text) : afterWords? ["pp_add_exported", "(", "''", ","]
      ('\n' :: ("pp_add_exported('', ".toList ++ t)) = some (' ' :: t) := rfl
  have hspace (t : Text) : singleQuoted? (' ' :: t) = singleQuoted? t := rfl
  have hclose (t : Text) : afterWords? [")", ";"] (");".toList ++ t) = some t := rfl
  have hquote : '\'' ∉ '%' :: name :=
    List.not_mem_cons_of_ne_of_not_mem (by decide) (not_mem_of_isIdentifier hn (by decide))
  have hslash : '\\' ∉ '%' :: name :=
    List.not_mem_cons_of_ne_of_not_mem (by decide) (not_mem_of_isIdentifier hn (by decide))
  rw [constantSection_append, table?, hopen]
  simp only [Option.bind_eq_bind, Option.bind_some, dropPrefix?_append,
    hereDocument?_append (by decide) (mem_tableLines hn he), constants?_tableLines hn he, hexport,
    hspace, singleQuoted?_append hquote hslash, hclose, if_true]

/-! ### Functions -/

theorem bindingSection_append (f : BoundFunction) (r : Text) :
    bindingSection f ++ r = "pp_def(".toList ++ ('\'' :: (f.name ++ '\'' ::
      (",\n    Pars => ".toList ++ (quote f.parameters ++
        (",\n    GenericTypes => [qw(".toList ++
          (join [' '] (f.instantiations.map fun i => [i.letter]) ++ ')' ::
            ("],\n    Code => ".toList ++ (quote (['\n'] ++ (f.code ++ ['\n'])) ++
              (",\n    Doc => ".toList ++ (quote f.doc ++ (",\n);".toList ++ r))))))))))) := by
  unfold bindingSection
  simp only [join, List.append_assoc]
  rfl

theorem isPiece_letter (i : Instantiation) : IsPiece [i.letter] := by
  cases i <;> exact ⟨by decide, by decide⟩

theorem letters?_append (is : List Instantiation) (r : Text) :
    letters? (join [' '] (is.map fun i => [i.letter]) ++ ')' :: r) = some (is, r) := by
  have hparen : ')' ∉ join [' '] (is.map fun i => [i.letter]) := by
    refine not_mem_join (by decide) fun t ht => ?_
    obtain ⟨i, -, rfl⟩ := List.mem_map.mp ht
    cases i <;> decide
  have hpieces : ∀ t ∈ is.map fun i => [i.letter], IsPiece t := by
    intro t ht
    obtain ⟨i, -, rfl⟩ := List.mem_map.mp ht
    exact isPiece_letter i
  have hletters : (is.map fun i => [i.letter]).mapM Instantiation.ofLetter? = some is := by
    have hmap := mapM_map_eq_some (f := id) fun i (_ : i ∈ is) =>
      Instantiation.ofLetter?_letter i
    rwa [List.map_id] at hmap
  simp only [letters?, cutAt?_append hparen, Option.bind_eq_bind, Option.bind_some,
    words_join hpieces, hletters]

theorem block?_quote (t r : Text) :
    block? (quote (['\n'] ++ (t ++ ['\n'])) ++ r) = some (t, r) := by
  simp only [block?, literal?_quote, Option.bind_eq_bind, Option.bind_some, between?_append]

theorem function?_section {f : BoundFunction} (h : IsWordText f.name) (r : Text) :
    function? (gap ++ (bindingSection f ++ r)) = some (Entry.ofFunction f, r) := by
  have hname (t : Text) : field? ["pp_def", "("] singleQuoted?
      (gap ++ ("pp_def(".toList ++ ('\'' :: (f.name ++ '\'' :: t)))) = some (f.name, t) :=
    singleQuoted?_append (h.not_mem (by decide)) (h.not_mem (by decide)) t
  have hpars (t : Text) : field? [",", "Pars", "=>"] literal?
      (",\n    Pars => ".toList ++ (quote f.parameters ++ t)) = some (f.parameters, t) :=
    literal?_quote f.parameters t
  have htypes (t : Text) : field? [",", "GenericTypes", "=>", "[", "qw("] letters?
      (",\n    GenericTypes => [qw(".toList ++
        (join [' '] (f.instantiations.map fun i => [i.letter]) ++ ')' :: t)) =
      some (f.instantiations, t) :=
    letters?_append f.instantiations t
  have hcode (t : Text) : field? ["]", ",", "Code", "=>"] block?
      ("],\n    Code => ".toList ++ (quote (['\n'] ++ (f.code ++ ['\n'])) ++ t)) =
      some (f.code, t) :=
    block?_quote f.code t
  have hdoc (t : Text) : field? [",", "Doc", "=>"] literal?
      (",\n    Doc => ".toList ++ (quote f.doc ++ t)) = some (f.doc, t) :=
    literal?_quote f.doc t
  have hclose (t : Text) : afterWords? [",", ")", ";"] (",\n);".toList ++ t) = some t := rfl
  rw [bindingSection_append, function?, hname]
  simp only [Option.bind_eq_bind, Option.bind_some, hpars, htypes, hcode, hdoc, hclose]
  rfl

/-! ### Sections that are missing -/

theorem headers?_constants (name : Text) (es : List (Text × Value)) (r : Text) :
    headers? (gap ++ (constantSection name es ++ r)) = none := rfl

theorem headers?_binding (f : BoundFunction) (r : Text) :
    headers? (gap ++ (bindingSection f ++ r)) = none := rfl

theorem headers?_last (r : Text) : headers? (gap ++ (lastSection ++ r)) = none := rfl

theorem table?_binding (f : BoundFunction) (r : Text) :
    table? (gap ++ (bindingSection f ++ r)) = none := rfl

theorem table?_last (r : Text) : table? (gap ++ (lastSection ++ r)) = none := rfl

theorem function?_last (r : Text) : function? (gap ++ (lastSection ++ r)) = none := rfl

end HeaderBindings.PerlModule
