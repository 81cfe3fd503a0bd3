import HeaderBindings.Constant.Candidates
import HeaderBindings.Proofs.FirstWins
import HeaderBindings.Proofs.Text.Lines

/-!
# The search goes by lines

The pattern of a macro is read without a second try: no run in it can be shorter, because what comes
behind a run cannot start inside it. It does not match a line feed, so what it reads off a line does
not depend on the lines behind it, and a match ends in the line where it starts. Therefore the
search of a whole text finds what is found in its lines one by one.
-/
namespace HeaderBindings.Constant

open Text

/-! ### Reading off the start of a text -/

def skipSpaces (t : Text) : Text := t.dropWhile (· = ' ')

/-- What follows one or more spaces. -/
def afterSpaces? (t : Text) : Option Text := (dropPrefix? [' '] t).map skipSpaces

/-- What follows the first character of a value. -/
def afterFirst? : Text → Option Text
  | [] => none
  | c :: r => if isBlank c then none else some r

/-- The name of the macro at the start of a text, and what follows the first character of its
value. -/
def readMacro? (t : Text) : Option (Text × Text) := do
  let r ← dropPrefix? ['#'] (skipSpaces t)
  let r ← dropPrefix? "define".toList (skipSpaces r)
  let r ← afterSpaces? r
  let (name, r) ← readName? r
  let r ← afterSpaces? r
  let r ← afterFirst? r
  some (name, r)

/-- The candidate that a line defines. -/
def candidate? (line : Text) : Option Text := (readMacro? line).map Prod.fst

/-! ### The pattern has no second try -/

/-- A run is as long as it can be if what follows cannot start with one of its characters. -/
theorem Part.matchRun?_eq (part : Part) {next : Text → Option (Text × Text)}
    (h : ∀ c r, part.test c = true → next (c :: r) = none) (t : Text) :
    part.matchRun? next t = (next (t.dropWhile part.test)).map
      fun m => if part.isCaptured then (t.takeWhile part.test ++ m.1, m.2) else m := by
  induction t with
  | nil => cases hn : next [] <;> simp [matchRun?, hn]
  | cons c r ih =>
    by_cases hc : part.test c = true
    · simp only [matchRun?, hc, if_true, ih, h c r hc, Option.or_none, List.dropWhile_cons_of_pos,
        List.takeWhile_cons_of_pos, Option.map_map]
      refine congrArg (Option.map · _) (funext fun m => ?_)
      by_cases hk : part.isCaptured = true
      · simp [keep, hk]
      · simp [keep, hk]
    · cases hn : next (c :: r) <;> simp [matchRun?, hc, hn]

theorem matchAll?_one_cons (q : Char → Bool) (ps : List Part) (c : Char) (r : Text) :
    matchAll? (.one q :: ps) (c :: r) = if q c then matchAll? ps r else none := by
  have hkeep : (Part.one q).keep c = id := rfl
  have hone : matchAll? (.one q :: ps) (c :: r) =
      if q c then (matchAll? ps r).map ((Part.one q).keep c) else none := rfl
  rw [hone, hkeep, Option.map_id_fun, id]

theorem matchAll?_run {p : Char → Bool} {ps : List Part}
    (h : ∀ c r, p c = true → matchAll? ps (c :: r) = none) (t : Text) :
    matchAll? (.run p :: ps) t = matchAll? ps (t.dropWhile p) := by
  have hrun : matchAll? (.run p :: ps) t = (matchAll? ps (t.dropWhile p)).map fun m => m :=
    Part.matchRun?_eq (.run p) h t
  rwa [Option.map_id'] at hrun

/-- Characters that are spelled out. -/
theorem matchAll?_literal (ds : Text) (ps : List Part) (t : Text) :
    matchAll? (ds.map (fun d => Part.one (· = d)) ++ ps) t =
      (dropPrefix? ds t).bind (matchAll? ps) := by
  induction ds generalizing t with
  | nil => rfl
  | cons d ds ih =>
    cases t with
    | nil => rfl
    | cons c t =>
      rw [List.map_cons, List.cons_append, matchAll?_one_cons]
      by_cases hc : c = d
      · simp [dropPrefix?, hc, ih]
      · simp [dropPrefix?, hc, Ne.symm hc]

theorem eq_space_of_isSpace {c : Char} (h : isSpace c = true) : c = ' ' := by
  simpa [isSpace] using h

/-- Spaces before something that starts with none. -/
theorem matchAll?_skipSpaces (ps : List Part) (h : ∀ r, matchAll? ps (' ' :: r) = none) :
    matchAll? (.run isSpace :: ps) = fun t => matchAll? ps (skipSpaces t) :=
  funext (matchAll?_run fun _ r hc => eq_space_of_isSpace hc ▸ h r)

theorem matchAll?_spaces {ps : List Part} (h : ∀ r, matchAll? ps (' ' :: r) = none) (t : Text) :
    matchAll? (spaces ++ ps) t = (afterSpaces? t).bind (matchAll? ps) := by
  have hspaces : matchAll? (spaces ++ ps) t =
      (dropPrefix? [' '] t).bind (matchAll? (.run isSpace :: ps)) :=
    matchAll?_literal [' '] _ t
  rw [hspaces, afterSpaces?, Option.bind_map, matchAll?_skipSpaces ps h]
  rfl

theorem matchAll?_value (t : Text) : matchAll? (spaces ++ [.one (!isBlank ·)]) t =
    ((afterSpaces? t).bind afterFirst?).map ([], ·) := by
  rw [matchAll?_spaces (fun _ => rfl), Option.map_bind]
  refine congrArg _ (funext fun r => ?_)
  cases r with
  | nil => rfl
  | cons c r =>
    rw [matchAll?_one_cons, Function.comp_apply, afterFirst?]
    cases isBlank c <;> rfl

/-- A name is captured whole. -/
theorem matchAll?_name (t : Text) :
    matchAll? ((Part.one isNameStart).captured :: (Part.run isWord).captured ::
        (spaces ++ [.one (!isBlank ·)])) t =
      (readName? t).bind fun m => ((afterSpaces? m.2).bind afterFirst?).map (m.1, ·) := by
  cases t with
  | nil => rfl
  | cons c r =>
    have hstart (ps : List Part) : matchAll? ((Part.one isNameStart).captured :: ps) (c :: r) =
        if isNameStart c then (matchAll? ps r).map fun m => (c :: m.1, m.2) else none := rfl
    have hword (ps : List Part) (d : Char) (s : Text) (hd : isWord d = true) :
        matchAll? (spaces ++ ps) (d :: s) = none := by
      refine (matchAll?_one_cons isSpace _ d s).trans (if_neg fun hs => ?_)
      rw [eq_space_of_isSpace hs] at hd
      cases hd
    have hrun (ps : List Part) : matchAll? ((Part.run isWord).captured :: (spaces ++ ps)) r =
        (matchAll? (spaces ++ ps) (r.dropWhile isWord)).map
          fun m => (r.takeWhile isWord ++ m.1, m.2) :=
      Part.matchRun?_eq (Part.run isWord).captured (hword ps) r
    rw [hstart, hrun, matchAll?_value, readName?]
    split_ifs
    · simp only [Option.map_map, Option.bind_some, Function.comp_def, List.append_nil]
    · rfl

/-- The pattern of a macro is read in one go. -/
theorem matchAll?_macroPattern (t : Text) : matchAll? macroPattern t = readMacro? t := by
  let name : List Part := (Part.one isNameStart).captured :: (Part.run isWord).captured ::
    (spaces ++ [.one (!isBlank ·)])
  let define : List Part := "define".toList.map (fun d => .one (· = d)) ++ (spaces ++ name)
  have hsign : matchAll? macroPattern t =
      (dropPrefix? ['#'] (skipSpaces t)).bind (matchAll? (.run isSpace :: define)) := by
    have hskip := congrFun (matchAll?_skipSpaces (.one (· = '#') :: .run isSpace :: define)
      fun _ => rfl) t
    exact hskip.trans (matchAll?_literal ['#'] _ (skipSpaces t))
  have hdefine (r : Text) : matchAll? define r = (dropPrefix? "define".toList r).bind fun r =>
      (afterSpaces? r).bind (matchAll? name) := by
    refine (matchAll?_literal _ _ r).trans (congrArg _ (funext fun r => ?_))
    exact matchAll?_spaces (fun _ => rfl) r
  rw [hsign, matchAll?_skipSpaces define fun _ => rfl]
  simp only [hdefine, name, funext matchAll?_name, readMacro?, Option.bind_eq_bind,
    Option.map_eq_bind, Option.bind_assoc, Function.comp_def]

/-! ### A line is read by itself -/

section Line
variable {rest : Text} (h : ∀ c ∈ rest.head?, c = '\n')
include h

theorem dropWhile_append_of_line {p : Char → Bool} (hp : p '\n' = false) (t : Text) :
    (t ++ rest).dropWhile p = t.dropWhile p ++ rest := by
  rw [List.dropWhile_append]
  split_ifs with ht
  · rw [List.isEmpty_iff.mp ht]
    cases rest with
    | nil => rfl
    | cons c r => simp [h c rfl, hp]
  · rfl

theorem takeWhile_append_of_line {p : Char → Bool} (hp : p '\n' = false) (t : Text) :
    (t ++ rest).takeWhile p = t.takeWhile p := by
  have hrest : rest.takeWhile p = [] := by
    cases rest with
    | nil => rfl
    | cons c r => simp [h c rfl, hp]
  induction t with
  | nil => exact hrest
  | cons c t ih => rw [List.cons_append, List.takeWhile_cons, List.takeWhile_cons, ih]

theorem dropPrefix?_append_of_line {p : Text} (hp : '\n' ∉ p) (t : Text) :
    dropPrefix? p (t ++ rest) = (dropPrefix? p t).map (· ++ rest) := by
  induction p generalizing t with
  | nil => rfl
  | cons d p ih =>
    obtain ⟨hd, hp⟩ := List.ne_and_not_mem_of_not_mem_cons hp
    cases t with
    | nil =>
      cases rest with
      | nil => rfl
      | cons c r => simp [dropPrefix?, h c rfl, hd.symm]
    | cons c t =>
      by_cases hc : d = c
      · simp [dropPrefix?, hc, ih hp]
      · simp [dropPrefix?, hc]

theorem skipSpaces_append_of_line (t : Text) : skipSpaces (t ++ rest) = skipSpaces t ++ rest :=
  dropWhile_append_of_line h (by decide) t

theorem afterSpaces?_append_of_line (t : Text) :
    afterSpaces? (t ++ rest) = (afterSpaces? t).map (· ++ rest) := by
  simp only [afterSpaces?, dropPrefix?_append_of_line h (p := [' ']) (by decide), Option.map_map,
    Function.comp_def, skipSpaces_append_of_line h]

theorem readName?_append_of_line (t : Text) :
    readName? (t ++ rest) = (readName? t).map fun m => (m.1, m.2 ++ rest) := by
  cases t with
  | nil =>
    cases rest with
    | nil => rfl
    | cons c r =>
      rw [h c rfl]
      rfl
  | cons c t =>
    rw [List.cons_append, readName?, readName?, takeWhile_append_of_line h (by decide),
      dropWhile_append_of_line h (by decide)]
    split_ifs <;> rfl

theorem afterFirst?_append_of_line (t : Text) :
    afterFirst? (t ++ rest) = (afterFirst? t).map (· ++ rest) := by
  cases t with
  | nil =>
    cases rest with
    | nil => rfl
    | cons c r =>
      rw [h c rfl]
      rfl
  | cons c t =>
    rw [List.cons_append, afterFirst?, afterFirst?]
    split_ifs <;> rfl

/-- What is read off a line does not depend on the lines behind it. -/
theorem readMacro?_append_of_line (t : Text) :
    readMacro? (t ++ rest) = (readMacro? t).map fun m => (m.1, m.2 ++ rest) := by
  simp only [readMacro?, Option.bind_eq_bind, skipSpaces_append_of_line h,
    dropPrefix?_append_of_line h (p := ['#']) (by decide),
    dropPrefix?_append_of_line h (p := "define".toList) (by decide),
    afterSpaces?_append_of_line h, readName?_append_of_line h, afterFirst?_append_of_line h,
    Option.bind_map, Option.map_bind, Function.comp_def, Option.map_some]

end Line

/-! ### The search -/

/-- Nothing is found before the next line. -/
theorem findMacros_append {u : Text} (hu : '\n' ∉ u) {n : ℕ} (hn : n ≤ u.length)
    (seen : List Text) (rest : Text) :
    findMacros seen false n (u ++ rest) = findMacros seen false 0 rest := by
  induction u generalizing n with
  | nil =>
    obtain rfl : n = 0 := Nat.le_zero.mp hn
    rfl
  | cons c u ih =>
    obtain ⟨hc, hu⟩ := List.ne_and_not_mem_of_not_mem_cons hu
    have hflag : decide (c = '\n') = false := decide_eq_false hc.symm
    cases n with
    | zero =>
      rw [List.cons_append, findMacros, if_neg Bool.false_ne_true, hflag, ih hu (Nat.zero_le _)]
    | succ n => rw [List.cons_append, findMacros, hflag, ih hu (Nat.le_of_succ_le_succ hn)]

/-- A line gives the candidate that it defines, unless that was seen. -/
theorem findMacros_line {l rest : Text} (hl : '\n' ∉ l) (hrest : ∀ c ∈ rest.head?, c = '\n')
    (seen : List Text) :
    findMacros seen true 0 (l ++ rest) = match candidate? l with
      | none => findMacros seen false 0 rest
      | some name =>
        if seen.contains name then findMacros seen false 0 rest
        else name :: findMacros (name :: seen) false 0 rest := by
  have hread : matchAll? macroPattern (l ++ rest) =
      (readMacro? l).map fun m => (m.1, m.2 ++ rest) :=
    (matchAll?_macroPattern _).trans (readMacro?_append_of_line hrest l)
  cases l with
  | nil =>
    have hnone : candidate? [] = none := rfl
    rw [hnone]
    cases rest with
    | nil => rfl
    | cons c r =>
      obtain rfl : c = '\n' := hrest c rfl
      rfl
  | cons c u =>
    obtain ⟨hc, hu⟩ := List.ne_and_not_mem_of_not_mem_cons hl
    have hflag : decide (c = '\n') = false := decide_eq_false hc.symm
    rw [List.cons_append] at hread ⊢
    rw [findMacros, if_pos rfl, hread, hflag, candidate?]
    cases hm : readMacro? (c :: u) with
    | none => exact findMacros_append hu (Nat.zero_le _) seen rest
    | some m =>
      -- what is left of the line after the match is still of the line
      have hlen : (u ++ rest).length - (m.2 ++ rest).length ≤ u.length := by
        rw [List.length_append, List.length_append]
        omega
      simp only [Option.map_some, findMacros_append hu hlen]

/-- The search of whole lines gives the new candidates among those of the lines. -/
theorem findMacros_lines {ls : List Text} (h : ∀ l ∈ ls, '\n' ∉ l) (seen : List Text) :
    findMacros seen false 0 (ls.flatMap ('\n' :: ·)) =
      FirstWins.unseen id seen (FirstWins.firsts id (ls.filterMap candidate?)) := by
  induction ls generalizing seen with
  | nil => rfl
  | cons l ls ih =>
    obtain ⟨hl, hls⟩ := List.forall_mem_cons.mp h
    have hrest : ∀ c ∈ (ls.flatMap ('\n' :: ·)).head?, c = '\n' := by
      cases ls with
      | nil => rintro c ⟨⟩
      | cons l' ls => rintro c ⟨⟩; rfl
    have hstart : findMacros seen false 0 ((l :: ls).flatMap ('\n' :: ·)) =
        findMacros seen true 0 (l ++ ls.flatMap ('\n' :: ·)) := rfl
    rw [hstart, findMacros_line hl hrest]
    cases hc : candidate? l with
    | none => simp only [List.filterMap_cons, hc, ih hls]
    | some name =>
      simp only [List.filterMap_cons, hc, ih hls, FirstWins.unseen_firsts_cons, id, List.map_id_fun,
        List.contains_iff_mem]

/-- The candidates of a text are those of its lines, each at its first line. -/
theorem candidates_eq (t : Text) :
    candidates t = FirstWins.firsts id ((lines t).filterMap candidate?) := by
  have hlines := findMacros_lines (fun l (hl : l ∈ lines t) => not_mem_of_mem_splitOn hl) []
  rw [flatMap_lines, FirstWins.unseen_nil] at hlines
  exact hlines

theorem nodup_candidates (t : Text) : (candidates t).Nodup := by
  rw [candidates_eq]
  simpa using FirstWins.nodup_keys_firsts id _

theorem mem_candidates {t name : Text} :
    name ∈ candidates t ↔ ∃ line ∈ lines t, candidate? line = some name := by
  have hkeys := FirstWins.mem_keys_firsts id ((lines t).filterMap candidate?) name
  rw [List.map_id_fun, id, id] at hkeys
  rw [candidates_eq, hkeys, List.mem_filterMap]

theorem isName_of_candidate? {line name : Text} (h : candidate? line = some name) :
    isName name = true := by
  simp only [candidate?, readMacro?, Option.bind_eq_bind, Option.map_eq_some_iff,
    Option.bind_eq_some_iff, Option.some.injEq] at h
  obtain ⟨_, ⟨r₁, -, r₂, -, r₃, -, found, hname, r₅, -, r₆, -, rfl⟩, rfl⟩ := h
  exact isName_of_readName? hname

end HeaderBindings.Constant
