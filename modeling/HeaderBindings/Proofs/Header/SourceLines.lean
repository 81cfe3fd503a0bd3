import HeaderBindings.Header.Reading
import HeaderBindings.Proofs.Header.Declarations
import Mathlib.Data.List.Forall2

/-!
# Lines of declarations

The line of a declaration is counted in a text that is normalized and has no comments. Taking
comments and carriage returns out and turning tabs into spaces leaves every line feed in its place,
but a backslash at the end of a line takes that line end with it. So the line of a declaration is
the line of the file on which its mark starts, less the lines before it that are joined to the next.
-/
namespace HeaderBindings.Header

open Text

/-! ### From a file to its normalized text -/

/-- Every carriage return of a text stands before a line feed. -/
def HasLineEnds (t : Text) : Prop := ∀ u, '\r' :: u <:+ t → u.head? = some '\n'

/-- How many lines of a text are joined to the next one: a backslash stands at their end. -/
def joinedLines : Text → ℕ
  | [] => 0
  | c :: r =>
    if c = '\\' ∧ r.find? (· ≠ '\r') = some '\n' then joinedLines r + 1 else joinedLines r

/-- A character as it stands in a normalized text. -/
def shown (c : Char) : Char := if c = '\t' then ' ' else c

theorem shown_eq_iff {c d : Char} (ht : d ≠ '\t') (hs : d ≠ ' ') : shown c = d ↔ c = d := by
  unfold shown
  split_ifs with h
  · subst h
    exact iff_of_false hs.symm ht.symm
  · rfl

theorem normalize_eq (t : Text) :
    normalize t = joinContinuations ((t.filter (· ≠ '\r')).map shown) := rfl

theorem unifyLineEnds_eq_filter {t : Text} (h : HasLineEnds t) :
    unifyLineEnds t = t.filter (· ≠ '\r') := by
  fun_induction unifyLineEnds t with
  | case1 => rfl
  | case2 r ih =>
    have hr : HasLineEnds r :=
      fun u hu => h u (hu.trans ((List.suffix_cons _ _).trans (List.suffix_cons _ _)))
    simp [ih hr]
  | case3 c r hne ih =>
    have hr : HasLineEnds r := fun u hu => h u (hu.trans (List.suffix_cons _ _))
    have hc : c ≠ '\r' := by
      rintro rfl
      obtain ⟨s, rfl⟩ := List.head?_eq_some_iff.mp (h r List.suffix_rfl)
      exact hne s rfl rfl
    simp [ih hr, hc]

/-- Unified line ends are nothing new to a text that is normalized. -/
theorem normalize_unifyLineEnds {t : Text} (h : HasLineEnds t) :
    normalize (unifyLineEnds t) = normalize t := by
  rw [unifyLineEnds_eq_filter h, normalize_eq, normalize_eq, List.filter_filter]
  simp

theorem joinedLines_filter (t : Text) : joinedLines (t.filter (· ≠ '\r')) = joinedLines t := by
  induction t with
  | nil => rfl
  | cons c r ih =>
    by_cases hc : c = '\r'
    · subst hc
      simpa [joinedLines] using ih
    · have hfind : (r.filter (· ≠ '\r')).find? (· ≠ '\r') = r.find? (· ≠ '\r') := by
        rw [List.find?_filter]
        simp
      rw [List.filter_cons_of_pos (by simpa using hc), joinedLines, joinedLines, hfind, ih]

theorem joinedLines_map_shown (t : Text) : joinedLines (t.map shown) = joinedLines t := by
  induction t with
  | nil => rfl
  | cons c r ih =>
    have hc : shown c = '\\' ↔ c = '\\' := shown_eq_iff (by decide) (by decide)
    have hfind : (r.map shown).find? (· ≠ '\r') = some '\n' ↔ r.find? (· ≠ '\r') = some '\n' := by
      have hreturn : (fun d => decide (d ≠ '\r')) ∘ shown = fun d => decide (d ≠ '\r') := by
        funext d
        simp [shown_eq_iff (c := d) (d := '\r') (by decide) (by decide)]
      rw [List.find?_map, hreturn]
      cases r.find? (· ≠ '\r') with
      | none => simp
      | some d => simp [shown_eq_iff (c := d) (d := '\n') (by decide) (by decide)]
    simp only [List.map_cons, joinedLines, hc, hfind, ih]

theorem count_map_shown (t : Text) : (t.map shown).count '\n' = t.count '\n' := by
  rw [List.count_eq_countP, List.count_eq_countP, List.countP_map]
  refine List.countP_congr fun c _ => ?_
  simp [shown_eq_iff (c := c) (d := '\n') (by decide) (by decide)]

/-- What stands in a text after its continuations are joined stood in it before. The lines that are
missing before it are the joined ones. -/
theorem exists_of_joinContinuations {t a b : Text} {x : Char} (ht : '\r' ∉ t)
    (h : joinContinuations t = a ++ x :: b) :
    ∃ before after, t = before ++ x :: after ∧ joinContinuations before = a ∧
      joinContinuations after = b ∧ a.count '\n' + joinedLines before = before.count '\n' := by
  fun_induction joinContinuations t generalizing a with
  | case1 => simp at h
  | case2 r ih =>
    have hr : '\r' ∉ r := fun hm => ht (by simp [hm])
    obtain ⟨before, after, rfl, ha, hb, hcount⟩ := ih hr h
    refine ⟨'\\' :: '\n' :: before, after, rfl, ha, hb, ?_⟩
    simp [joinedLines]
    omega
  | case3 c r hne ih =>
    have hr : '\r' ∉ r := fun hm => ht (List.mem_cons_of_mem c hm)
    rcases List.cons_eq_append_iff.mp h with ⟨rfl, hx⟩ | ⟨a, rfl, ha⟩
    · obtain ⟨rfl, rfl⟩ := List.cons.inj hx
      exact ⟨[], r, rfl, rfl, rfl, rfl⟩
    · obtain ⟨before, after, rfl, rfl, hb, hcount⟩ := ih hr ha
      -- the character before is no backslash at the end of a line
      have hfree : ∀ s, c = '\\' → before = '\n' :: s → False := by
        rintro s hc rfl
        exact hne (s ++ x :: after) hc rfl
      have hnot : ¬(c = '\\' ∧ before.find? (· ≠ '\r') = some '\n') := by
        rintro ⟨hc, hf⟩
        cases before with
        | nil => cases hf
        | cons d s =>
          have hd : d ≠ '\r' := fun hd => hr (by simp [hd])
          rw [List.find?_cons_of_pos (by simpa using hd)] at hf
          exact hfree s hc (by rw [Option.some.inj hf])
      refine ⟨c :: before, after, rfl, joinContinuations.eq_3 _ _ hfree, hb, ?_⟩
      simp only [joinedLines, if_neg hnot, List.count_cons]
      omega

/-- A character of a normalized text is a character of the text, with what stands before it. -/
theorem exists_of_normalize {t a b : Text} {x : Char} (h : normalize t = a ++ x :: b) :
    ∃ before c after, t = before ++ c :: after ∧ normalize before = a ∧ shown c = x ∧
      normalize after = b ∧ a.count '\n' + joinedLines before = before.count '\n' := by
  have hreturn : '\r' ∉ (t.filter (· ≠ '\r')).map shown := by
    intro hm
    obtain ⟨d, hd, hshown⟩ := List.mem_map.mp hm
    have hdr : d = '\r' := (shown_eq_iff (by decide) (by decide)).mp hshown
    simp [hdr] at hd
  obtain ⟨u, v, huv, ha, hb, hcount⟩ := exists_of_joinContinuations hreturn h
  obtain ⟨u', cv, hfilter, rfl, hcv⟩ := List.map_eq_append_iff.mp huv
  obtain ⟨c, v', rfl, hc, rfl⟩ := List.map_eq_cons_iff.mp hcv
  obtain ⟨before, rest, rfl, rfl, hrest⟩ := List.filter_eq_append_iff.mp hfilter
  obtain ⟨returns, after, rfl, hreturns, -, rfl⟩ := List.filter_eq_cons_iff.mp hrest
  have hbefore : (before ++ returns).filter (· ≠ '\r') = before.filter (· ≠ '\r') := by
    rw [List.filter_append, List.filter_eq_nil_iff.mpr hreturns, List.append_nil]
  refine ⟨before ++ returns, c, after, by simp, ?_, hc, hb, ?_⟩
  · rw [normalize_eq, hbefore, ha]
  · rw [joinedLines_map_shown, count_map_shown, ← hbefore, joinedLines_filter,
      List.count_filter (by decide)] at hcount
    exact hcount

/-! ### Lines of a text without comments -/

theorem length_strip (hides : Bool) (p : Place) (t : Text) : (strip hides p t).length = t.length := by
  induction t generalizing p with
  | nil => rfl
  | cons c r ih => rw [strip_cons, List.length_cons, List.length_cons, ih]

/-- Line feeds stay in their places. -/
theorem count_take_strip (hides : Bool) (p : Place) (t : Text) (i : ℕ) :
    ((strip hides p t).take i).count '\n' = (t.take i).count '\n' := by
  induction t generalizing p i with
  | nil => rfl
  | cons c r ih =>
    have hc : (if (p.step hides c r).1 then blankOut c else c) = '\n' ↔ c = '\n' := by
      unfold blankOut
      split_ifs with hm hn
      · simp [hn]
      · simp [hn]
      · rfl
    cases i with
    | zero => rfl
    | succ i =>
      rw [strip_cons, List.take_succ_cons, List.take_succ_cons, List.count_cons, List.count_cons,
        ih]
      simp only [beq_iff_eq, hc]

namespace Declaration

theorem line_read? {mark t rest : Text} {line : ℕ} {d : Declaration}
    (h : read? mark line t = some (d, rest)) : d.line = line := by
  simp only [read?, Option.bind_eq_bind, Option.bind_eq_some_iff, Option.some.injEq,
    Prod.mk.injEq] at h
  obtain ⟨_, _, _, _, _, _, _, _, _, _, _, _, _, _, rfl, _⟩ := h
  rfl

/-- What follows a declaration ends the text that it was read from. -/
theorem suffix_read? {mark t rest : Text} {line : ℕ} {d : Declaration}
    (h : read? mark line t = some (d, rest)) : rest <:+ t := by
  have hdrop {p u r : Text} (h : dropPrefix? p u = some r) : r <:+ u :=
    ⟨p, (dropPrefix?_eq_some_iff.mp h).symm⟩
  have hafter {c : Char} {u r : Text} (h : after? c u = some r) : r <:+ u :=
    (hdrop h).trans (List.dropWhile_suffix _)
  simp only [read?, Option.bind_eq_bind, Option.bind_eq_some_iff, Option.some.injEq,
    Prod.mk.injEq] at h
  obtain ⟨r₁, h₁, r₂, h₂, r₃, h₃, ⟨name, r₄⟩, h₄, r₅, h₅, ⟨body, r₆⟩, h₆, _, _, _, rfl⟩ := h
  have hname : r₄ <:+ r₃ := List.IsSuffix.trans ⟨name, (readName?_append h₄).symm⟩
    (List.dropWhile_suffix _)
  have hbody : r₆ <:+ r₅ := ⟨body ++ [';'], by rw [cutAt?_eq h₆]; simp⟩
  exact hbody.trans ((hafter h₅).trans (hname.trans ((hdrop h₃).trans
    ((List.dropWhile_suffix _).trans ((hafter h₂).trans (hdrop h₁))))))

/-- The declarations of a text are read at places of it, from left to right, each with the number of
the line that its place is in. -/
theorem exists_offsets (mark : Text) {s u t : Text} (hs : s = u ++ t) {line : ℕ}
    (hline : line = 1 + u.count '\n') (inWord : Bool) :
    ∃ offsets : List ℕ, offsets.Pairwise (· < ·) ∧ (∀ i ∈ offsets, u.length ≤ i) ∧
      List.Forall₂ (fun d i => d.line = 1 + (s.take i).count '\n' ∧
        ∃ rest, read? mark d.line (s.drop i) = some (d, rest)) (scanFrom mark inWord line t)
        offsets := by
  fun_induction scanFrom mark inWord line t generalizing u with
  | case1 => exact ⟨[], .nil, by simp, .nil⟩
  | case2 inWord line c r d rest hd ih =>
    have hread : read? mark line (c :: r) = some (d, rest) := by
      split_ifs at hd
      exact hd
    obtain ⟨v, hv⟩ := suffix_read? hread
    have hlength := length_read? hread
    have hpos : u.length < (u ++ v).length := by
      have := congrArg List.length hv
      simp only [List.length_append] at this ⊢
      omega
    have hs' : s = (u ++ v) ++ rest := by rw [hs, List.append_assoc, hv]
    have hline' : line + (c :: r).count '\n' - rest.count '\n' = 1 + (u ++ v).count '\n' := by
      rw [← hv, List.count_append, List.count_append, hline]
      omega
    obtain ⟨offsets, hlt, hle, hreads⟩ := ih hs' hline'
    refine ⟨u.length :: offsets, List.pairwise_cons.mpr ⟨fun i hi => ?_, hlt⟩, ?_,
      .cons ⟨?_, rest, ?_⟩ hreads⟩
    · exact lt_of_lt_of_le hpos (hle i hi)
    · exact List.forall_mem_cons.mpr ⟨le_rfl, fun i hi => hpos.le.trans (hle i hi)⟩
    · rw [line_read? hread, hs, List.take_left, hline]
    · rw [line_read? hread, hs, List.drop_left, hread]
  | case3 inWord line c r hd ih =>
    have hs' : s = (u ++ [c]) ++ r := by rw [hs, List.append_assoc, List.singleton_append]
    have hline' : (if c = '\n' then line + 1 else line) = 1 + (u ++ [c]).count '\n' := by
      rw [List.count_append, List.count_singleton, hline]
      by_cases hc : c = '\n' <;> simp [hc, Nat.add_assoc]
    obtain ⟨offsets, hlt, hle, hreads⟩ := ih hs' hline'
    refine ⟨offsets, hlt, fun i hi => ?_, hreads⟩
    have := hle i hi
    simp only [List.length_append, List.length_singleton] at this
    omega

end Declaration

/-! ### Lines of a file -/

/-- Where a declaration starts in a file: a character that stays when the file is normalized, and
from which on, comments apart, the declaration is read. -/
structure StartsAfter (mark file before : Text) (d : Declaration) : Prop where
  kept : ∃ c after, file = before ++ c :: after ∧
    normalize file = normalize before ++ shown c :: normalize after
  read : ∃ rest, Declaration.read? mark d.line
    ((stripComments (normalize file)).drop (normalize before).length) = some (d, rest)

/-- The declarations of a header start at places of its file, one after the other. The line of each
and the joined lines before it make up the line of the file that it starts on. So the two lines are
the same just if no line before is joined to the next. -/
theorem lines_declarations (mark : Text) {bytes : Bytes}
    (h : HasLineEnds (Utf8.decodeReplacing bytes)) :
    ∃ offsets : List ℕ, offsets.Pairwise (· < ·) ∧
      List.Forall₂ (fun d i => ∃ before,
        StartsAfter mark (Utf8.decodeReplacing bytes) before d ∧ (normalize before).length = i ∧
          d.line + joinedLines before = 1 + before.count '\n')
        (declarations mark (ofBytes bytes)) offsets := by
  have htext : ofBytes bytes = normalize (Utf8.decodeReplacing bytes) := normalize_unifyLineEnds h
  rw [htext]
  generalize Utf8.decodeReplacing bytes = file
  have hstrip : stripComments (normalize file) = strip false .code (normalize file) :=
    blankLineComments_blankBlockComments false _
  obtain ⟨offsets, hlt, -, hreads⟩ := Declaration.exists_offsets mark
    (List.nil_append (stripComments (normalize file))).symm (Nat.add_zero 1).symm false
  refine ⟨offsets, hlt, List.Forall₂.imp ?_ hreads⟩
  rintro d i ⟨hline, rest, hread⟩
  have hi : i < (normalize file).length := by
    by_contra hle
    have hnil : (stripComments (normalize file)).drop i = [] := by
      rw [hstrip, List.drop_eq_nil_iff, length_strip]
      exact not_lt.mp hle
    have hlength := Declaration.length_read? (hnil ▸ hread)
    exact Nat.not_lt_zero _ hlength
  have hsplit : normalize file = (normalize file).take i ++
      (normalize file)[i] :: (normalize file).drop (i + 1) := by
    rw [← List.drop_eq_getElem_cons hi, List.take_append_drop]
  obtain ⟨before, c, after, hfile, hbefore, hc, hafter, hcount⟩ := exists_of_normalize hsplit
  have hlength : (normalize before).length = i := by
    rw [hbefore, List.length_take]
    exact Nat.min_eq_left hi.le
  refine ⟨before, ⟨⟨c, after, hfile, ?_⟩, rest, ?_⟩, hlength, ?_⟩
  · rw [hbefore, hc, hafter]
    exact hsplit
  · rw [hlength]
    exact hread
  · rw [hline, hstrip, count_take_strip, Nat.add_assoc, hcount]

/-- A header whose first two lines are one. -/
def joinedHeader : Bytes := Utf8.encode "#define F(x) \\\r\n  x\r\nE(int) f(int a);".toList

theorem hasLineEnds_joinedHeader : HasLineEnds (Utf8.decodeReplacing joinedHeader) := by
  have htails : ∀ u ∈ (Utf8.decodeReplacing joinedHeader).tails,
      u.head? = some '\r' → u.tail.head? = some '\n' := by decide +kernel
  exact fun u hu => htails _ ((List.mem_tails _ _).mpr hu) rfl

/-- Its declaration stands on the third line and is said to stand on the second. -/
theorem lines_declarations_joinedHeader : ∃ d before,
    declarations ['E'] (ofBytes joinedHeader) = [d] ∧ d.line = 2 ∧
      StartsAfter ['E'] (Utf8.decodeReplacing joinedHeader) before d ∧
        2 + joinedLines before = 1 + before.count '\n' := by
  obtain ⟨offsets, -, hstarts⟩ := lines_declarations ['E'] hasLineEnds_joinedHeader
  have hd : declarations ['E'] (ofBytes joinedHeader) =
      [⟨"int".toList, ['f'], "int a".toList, 2⟩] := by decide +kernel
  rw [hd] at hstarts ⊢
  cases hstarts with
  | cons hstart _ =>
    obtain ⟨before, hafter, -, hline⟩ := hstart
    exact ⟨_, before, rfl, rfl, hafter, hline⟩

end HeaderBindings.Header
