import HeaderBindings.Proofs.Constant.MacroSearch

/-!
# Candidates line by line

A line defines a candidate by its own form: a number sign, `define` and a name with spaces between
them, and behind the name spaces and a character that is no blank. No form runs over the end of a
line, so the candidates of a text are the names that its lines define, each at its first place. Two
texts with a line feed between them have the candidates of the first, followed by what is new in the
second.
-/
namespace HeaderBindings.Constant

open Text

/-! ### Lines of macros -/

/-- The line of a macro as it is written. The numbers count spaces; those before the name are one
more, and what follows the name is free. -/
structure MacroLine where
  beforeSign : ℕ
  beforeDefine : ℕ
  beforeName : ℕ
  name : Text
  rest : Text
deriving DecidableEq, Repr

namespace MacroLine

def write (m : MacroLine) : Text :=
  List.replicate m.beforeSign ' ' ++ '#' :: (List.replicate m.beforeDefine ' ' ++
    ("define".toList ++ ' ' :: (List.replicate m.beforeName ' ' ++ (m.name ++ m.rest))))

/-- Behind the name stand spaces, at least one, and then a character that is no blank. -/
def HasValue (m : MacroLine) : Prop :=
  ∃ n c r, m.rest = ' ' :: (List.replicate n ' ' ++ c :: r) ∧ isBlank c = false

/-- Behind the name stands a parenthesis, or nothing but blanks. -/
def IsValueless (m : MacroLine) : Prop :=
  m.rest.head? = some '(' ∨ ∀ c ∈ m.rest, isBlank c = true

theorem IsValueless.not_hasValue {m : MacroLine} (h : m.IsValueless) : ¬m.HasValue := by
  rintro ⟨n, c, r, hrest, hc⟩
  rcases h with h | h
  · simp [hrest] at h
  · have hblank : isBlank c = true := h c (by simp [hrest])
    simp [hc] at hblank

/-- Where a macro has parameters or no value, its name ends all the same. -/
theorem IsValueless.atWord {m : MacroLine} (h : m.IsValueless) : atWord m.rest = false := by
  cases hrest : m.rest with
  | nil => rfl
  | cons c r =>
    rcases h with h | h
    · obtain rfl : c = '(' := by simpa [hrest] using h
      rfl
    · exact isWord_of_isBlank (h c (by simp [hrest]))

theorem HasValue.atWord {m : MacroLine} (h : m.HasValue) : atWord m.rest = false := by
  obtain ⟨n, c, r, hrest, -⟩ := h
  rw [hrest]
  rfl

end MacroLine

/-- A line defines a name with a value. -/
def Defines (line name : Text) : Prop :=
  ∃ m : MacroLine, m.write = line ∧ m.name = name ∧ isName name = true ∧ m.HasValue

/-! ### Reading a line -/

theorem skipSpaces_spaces_append (n : ℕ) (t : Text) :
    skipSpaces (List.replicate n ' ' ++ t) = skipSpaces t :=
  List.dropWhile_append_of_pos (by simp)

theorem skipSpaces_cons_of_ne {c : Char} (h : c ≠ ' ') (t : Text) :
    skipSpaces (c :: t) = c :: t := by
  simp [skipSpaces, h]

theorem exists_skipSpaces (t : Text) : ∃ n, t = List.replicate n ' ' ++ skipSpaces t := by
  refine ⟨(t.takeWhile (· = ' ')).length, ?_⟩
  have hspaces : t.takeWhile (· = ' ') = List.replicate (t.takeWhile (· = ' ')).length ' ' :=
    List.eq_replicate_of_mem fun c hc => by simpa using List.mem_takeWhile_imp hc
  rw [← hspaces]
  exact List.takeWhile_append_dropWhile.symm

theorem afterSpaces?_eq_some_iff {t r : Text} :
    afterSpaces? t = some r ↔ ∃ s, t = ' ' :: s ∧ skipSpaces s = r := by
  simp [afterSpaces?, dropPrefix?_eq_some_iff]

theorem afterFirst?_eq_some_iff {t r : Text} :
    afterFirst? t = some r ↔ ∃ c, t = c :: r ∧ isBlank c = false := by
  cases t with
  | nil => simp [afterFirst?]
  | cons c t => cases hc : isBlank c <;> simp [afterFirst?, hc]

theorem MacroLine.hasValue_iff {m : MacroLine} :
    m.HasValue ↔ ∃ r, (afterSpaces? m.rest).bind afterFirst? = some r := by
  simp only [Option.bind_eq_some_iff, afterSpaces?_eq_some_iff, afterFirst?_eq_some_iff]
  constructor
  · rintro ⟨n, c, r, hrest, hc⟩
    have hne : c ≠ ' ' := ne_of_isBlank hc (by decide)
    exact ⟨r, c :: r, ⟨_, hrest, by rw [skipSpaces_spaces_append, skipSpaces_cons_of_ne hne]⟩,
      c, rfl, hc⟩
  · rintro ⟨r, _, ⟨t, hrest, rfl⟩, c, hskip, hc⟩
    obtain ⟨n, ht⟩ := exists_skipSpaces t
    exact ⟨n, c, r, by rw [hrest, ← hskip, ← ht], hc⟩

/-- A macro whose name ends is a candidate just if it has a value. -/
theorem candidate?_write_eq_some_iff {m : MacroLine} (hn : isName m.name = true)
    (hr : atWord m.rest = false) {name : Text} :
    candidate? m.write = some name ↔ m.name = name ∧ m.HasValue := by
  obtain ⟨d, s, hname, hd, -⟩ := isName_iff.mp hn
  have hspace : d ≠ ' ' := by
    rintro rfl
    cases hd
  have hread : readName? (skipSpaces (m.name ++ m.rest)) = some (m.name, m.rest) := by
    rw [hname, List.cons_append, skipSpaces_cons_of_ne hspace, ← List.cons_append, ← hname]
    exact readName?_name_append hn hr
  have hsign (t : Text) : dropPrefix? ['#'] ('#' :: t) = some t := dropPrefix?_append ['#'] t
  have hdefine (t : Text) : skipSpaces ("define".toList ++ t) = "define".toList ++ t :=
    skipSpaces_cons_of_ne (by decide) _
  have hbefore (t : Text) : afterSpaces? (' ' :: t) = some (skipSpaces t) :=
    afterSpaces?_eq_some_iff.mpr ⟨t, rfl, rfl⟩
  have hmacro : readMacro? m.write =
      ((afterSpaces? m.rest).bind afterFirst?).map (m.name, ·) := by
    rw [readMacro?, MacroLine.write, skipSpaces_spaces_append, skipSpaces_cons_of_ne (by decide)]
    simp only [Option.bind_eq_bind, Option.bind_some, hsign, skipSpaces_spaces_append, hdefine,
      dropPrefix?_append, hbefore, hread, Option.map_eq_bind, Option.bind_assoc, Function.comp_def]
  rw [candidate?, hmacro, Option.map_map, Option.map_eq_some_iff, MacroLine.hasValue_iff]
  constructor
  · rintro ⟨r, h, he⟩
    exact ⟨he, r, h⟩
  · rintro ⟨he, r, h⟩
    exact ⟨r, h, he⟩

/-- A candidate is read off a line of a macro. -/
theorem exists_write_of_candidate? {line name : Text} (h : candidate? line = some name) :
    ∃ m : MacroLine, m.write = line ∧ isName m.name = true ∧ atWord m.rest = false := by
  simp only [candidate?, readMacro?, Option.bind_eq_bind, Option.map_eq_some_iff,
    Option.bind_eq_some_iff] at h
  obtain ⟨_, ⟨r₁, hsign, r₂, hdefine, r₃, hbefore, ⟨found, rest⟩, hname, -⟩, -⟩ := h
  rw [dropPrefix?_eq_some_iff] at hsign hdefine
  obtain ⟨s, rfl, rfl⟩ := afterSpaces?_eq_some_iff.mp hbefore
  obtain ⟨i, hi⟩ := exists_skipSpaces line
  obtain ⟨j, hj⟩ := exists_skipSpaces r₁
  obtain ⟨k, hk⟩ := exists_skipSpaces s
  refine ⟨⟨i, j, k, found, rest⟩, ?_, isName_of_readName? hname, atWord_of_readName? hname⟩
  rw [MacroLine.write, ← readName?_append hname, ← hk, ← hdefine, ← hj, hi, hsign]
  rfl

/-- A line is read for what it defines. -/
theorem defines_iff {line name : Text} : Defines line name ↔ candidate? line = some name := by
  constructor
  · rintro ⟨m, rfl, rfl, hn, hv⟩
    exact (candidate?_write_eq_some_iff hn hv.atWord).mpr ⟨rfl, hv⟩
  · intro h
    obtain ⟨m, rfl, hn, hr⟩ := exists_write_of_candidate? h
    obtain ⟨rfl, hv⟩ := (candidate?_write_eq_some_iff hn hr).mp h
    exact ⟨m, rfl, rfl, hn, hv⟩

/-- A macro with parameters, or without a value, defines no candidate. -/
theorem not_defines_write {m : MacroLine} (hn : isName m.name = true) (h : m.IsValueless)
    (name : Text) : ¬Defines m.write name := by
  rw [defines_iff, candidate?_write_eq_some_iff hn h.atWord]
  exact fun hv => h.not_hasValue hv.2

/-! ### Lines in order -/

/-- A list of the names that the lines of a text define: each once, a name before another if its
first line comes before all lines of the other. -/
structure ListsDefined (t : Text) (names : List Text) : Prop where
  nodup : names.Nodup
  mem_iff : ∀ name, name ∈ names ↔ ∃ line ∈ lines t, Defines line name
  ordered : names.Pairwise fun a b => ∃ before line after, lines t = before ++ line :: after ∧
    Defines line a ∧ ∀ l ∈ before ++ [line], ¬Defines l b

theorem listsDefined_candidates (t : Text) : ListsDefined t (candidates t) where
  nodup := nodup_candidates t
  mem_iff name := by simp only [mem_candidates, defines_iff]
  ordered := by
    rw [candidates_eq]
    refine (FirstWins.pairwise_firsts id _).imp ?_
    rintro a b ⟨before, after, hsplit, hbefore⟩
    -- the names before the first `a` come from the lines before its line
    obtain ⟨ls, rest, hlines, rfl, hrest⟩ := List.filterMap_eq_append_iff.mp hsplit
    obtain ⟨skipped, line, more, rfl, hskipped, hline, -⟩ := List.filterMap_eq_cons_iff.mp hrest
    refine ⟨ls ++ skipped, line, more, by rw [hlines, List.append_assoc], defines_iff.mpr hline, ?_⟩
    intro l hl hb
    rw [defines_iff] at hb
    simp only [List.mem_append, List.mem_singleton, or_assoc] at hl
    rcases hl with hl | hl | rfl
    · exact hbefore b (List.mem_append_left _ (List.mem_filterMap.mpr ⟨l, hl, hb⟩)) rfl
    · rw [hskipped l hl] at hb
      cases hb
    · rw [hline] at hb
      exact hbefore a (by simp) (Option.some.inj hb)

theorem candidates_append_newline (t u : Text) : candidates (t ++ '\n' :: u) =
    candidates t ++ (candidates u).filter (· ∉ candidates t) := by
  rw [candidates_eq, lines_append_lines, List.filterMap_append, FirstWins.firsts_append,
    ← candidates_eq, ← candidates_eq, FirstWins.unseen]
  refine congrArg _ (List.filter_congr fun name _ => ?_)
  simp [mem_candidates]

/-- The candidates of a text are the names that its lines define, in the order of their first lines.
A macro with parameters or without a value defines none, and the candidates of a text with more
lines behind it are its own and then those of these lines that are new. -/
theorem candidates_line_by_line :
    (∀ t, ListsDefined t (candidates t)) ∧
    (∀ m : MacroLine, isName m.name = true → m.IsValueless → ∀ name, ¬Defines m.write name) ∧
    ∀ t u, candidates (t ++ '\n' :: u) =
      candidates t ++ (candidates u).filter (· ∉ candidates t) :=
  ⟨listsDefined_candidates, fun _ => not_defines_write, candidates_append_newline⟩

/-- Spaces may stand in all places, and a tab in none. -/
example : candidates
    "  #  define  A  1\n#define B\t2\n#define C(x) 3\n#define D \n#define A 4".toList =
      ["A".toList] := by decide +kernel

end HeaderBindings.Constant
