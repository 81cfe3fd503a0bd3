import HeaderBindings.Header.Source
import Mathlib.Data.List.Infix

/-!
# Comments in one pass

A pass from left to right marks the characters inside comments. In C the comment that opens first
wins, so a line comment hides every mark in it. Comments are blanked out here block comments first,
which is a pass too: one in which line comments hide nothing. The two passes mark the same
characters exactly when no block comment runs on from inside a line comment past the end of its
line, and none opens at the second slash of a line comment.
-/
namespace HeaderBindings.Header

/-! ### The pass -/

/-- Where a pass stands. A block comment that opens inside a line comment is in a line until a line
feed comes; at its opening mark the star is to come, and at its closing mark the slash. -/
inductive Place
  | code
  | line
  | opening (inLine : Bool)
  | block (inLine : Bool)
  | closing (inLine : Bool)
deriving DecidableEq, Repr

/-- Whether a text begins with a block comment; what is never closed is none. -/
def atBlock : Text → Bool
  | '/' :: '*' :: r => ['*', '/'] <:+: r
  | _ => false

/-- Whether a character is inside a comment, and where the pass stands after it. With `hides` a
line comment hides the marks of block comments. -/
def Place.step (hides : Bool) (p : Place) (c : Char) (r : Text) : Bool × Place :=
  match p with
  | code =>
    if atBlock (c :: r) then (true, opening false)
    else if c = '/' && r.head? = some '/' && (hides || !atBlock r) then (true, line)
    else (false, code)
  | line =>
    if c = '\n' then (false, code)
    else if !hides && atBlock (c :: r) then (true, opening true)
    else (true, line)
  | opening inLine => (true, block inLine)
  | block inLine =>
    if c = '*' && r.head? = some '/' then (true, closing inLine)
    else (true, block (inLine && c ≠ '\n'))
  | closing inLine => (true, if inLine then line else code)

/-- Which characters of a text are inside comments. -/
def marks (hides : Bool) : Place → Text → List Bool
  | _, [] => []
  | p, c :: r => (p.step hides c r).1 :: marks hides (p.step hides c r).2 r

/-- A text with its marked characters blanked out. -/
def blankMarked (ms : List Bool) (t : Text) : Text :=
  List.zipWith (fun m c => if m then blankOut c else c) ms t

/-- The text that a pass leaves. -/
def strip (hides : Bool) (p : Place) (t : Text) : Text := blankMarked (marks hides p t) t

theorem strip_cons (hides : Bool) (p : Place) (c : Char) (r : Text) :
    strip hides p (c :: r) =
      (if (p.step hides c r).1 then blankOut c else c) :: strip hides (p.step hides c r).2 r := rfl

/-! ### Block comments first -/

theorem isSome_splitAtClose?_iff (t : Text) :
    (splitAtClose? t).isSome = true ↔ ['*', '/'] <:+: t := by
  fun_induction splitAtClose? t with
  | case1 => simp
  | case2 c => simp [List.infix_cons_iff]
  | case3 c d r h =>
    obtain ⟨rfl, rfl⟩ := h
    exact iff_of_true rfl ⟨[], r, rfl⟩
  | case4 c d r h ih =>
    have hp : ¬['*', '/'] <+: c :: d :: r := by
      simpa [List.cons_prefix_cons, eq_comm] using h
    rw [List.infix_cons_iff, Option.isSome_map, ih]
    simp [hp]

theorem atBlock_iff {t : Text} : atBlock t = true ↔
    ∃ body rest, t = '/' :: '*' :: (body ++ rest) ∧
      splitAtClose? (body ++ rest) = some (body, rest) := by
  constructor
  · intro h
    unfold atBlock at h
    split at h
    · next r =>
      obtain ⟨⟨body, rest⟩, hs⟩ :=
        Option.isSome_iff_exists.mp ((isSome_splitAtClose?_iff r).mpr (of_decide_eq_true h))
      have hr := splitAtClose?_eq hs
      subst hr
      exact ⟨body, rest, rfl, hs⟩
    · cases h
  · rintro ⟨body, rest, rfl, hs⟩
    exact decide_eq_true ((isSome_splitAtClose?_iff _).mp (by rw [hs]; rfl))

theorem blankBlockComments_block {body rest : Text}
    (h : splitAtClose? (body ++ rest) = some (body, rest)) :
    blankBlockComments ('/' :: '*' :: (body ++ rest)) =
      ' ' :: ' ' :: body.map blankOut ++ blankBlockComments rest := by
  rw [blankBlockComments, if_pos ⟨rfl, rfl⟩]
  split
  · next b r hs =>
    rw [h] at hs
    cases hs
    rfl
  · next hs =>
    rw [h] at hs
    cases hs

theorem blankBlockComments_cons {c : Char} {r : Text} (h : atBlock (c :: r) = false) :
    blankBlockComments (c :: r) = c :: blankBlockComments r := by
  cases r with
  | nil => simp [blankBlockComments]
  | cons d r =>
    rw [blankBlockComments]
    split_ifs with hc
    · obtain ⟨rfl, rfl⟩ := hc
      split
      · next body rest hs =>
        have hr := splitAtClose?_eq hs
        subst hr
        rw [atBlock_iff.mpr ⟨body, rest, rfl, hs⟩] at h
        cases h
      · rfl
    · rfl

/-- A slash stands first after block comments are blanked out unless it opened one. -/
theorem head?_blankBlockComments (t : Text) :
    (blankBlockComments t).head? = if atBlock t then some ' ' else t.head? := by
  cases h : atBlock t with
  | true =>
    obtain ⟨body, rest, rfl, hs⟩ := atBlock_iff.mp h
    rw [blankBlockComments_block hs]
    rfl
  | false =>
    cases t with
    | nil => simp [blankBlockComments]
    | cons c r => rw [blankBlockComments_cons h]; rfl

/-! ### Line comments afterwards -/

/-- A line comment goes on over blanks up to a line feed. -/
theorem blankLineComments_blanks (inLine : Bool) {u : Text} (h : ∀ c ∈ u, c = ' ' ∨ c = '\n')
    (t : Text) : blankLineComments inLine (u ++ t) =
      u ++ blankLineComments (inLine && !u.contains '\n') t := by
  induction u generalizing inLine with
  | nil => simp
  | cons c u ih =>
    obtain ⟨hc, hu⟩ := List.forall_mem_cons.mp h
    rw [List.cons_append]
    cases inLine with
    | false =>
      have hs : c ≠ '/' := by rcases hc with rfl | rfl <;> decide
      simp [blankLineComments, hs, ih false hu]
    | true =>
      rcases hc with rfl | rfl
      · simp [blankLineComments, blankOut, ih true hu]
      · simp [blankLineComments, blankOut, ih false hu]

theorem blankOut_blank (c : Char) : blankOut c = ' ' ∨ blankOut c = '\n' := by
  unfold blankOut
  split_ifs
  · exact .inr rfl
  · exact .inl rfl

theorem contains_map_blankOut (t : Text) : (t.map blankOut).contains '\n' = t.contains '\n' := by
  induction t with
  | nil => rfl
  | cons c t ih =>
    rw [List.map_cons, List.contains_cons, List.contains_cons, ih]
    by_cases h : c = '\n'
    · subst h
      rfl
    · have hb : blankOut c = ' ' := if_neg h
      have hc : ('\n' == c) = false := beq_eq_false_iff_ne.mpr (Ne.symm h)
      rw [hb, hc]
      rfl

/-- Where a pass stands outside block comments. -/
def Place.outside (inLine : Bool) : Place := if inLine then line else code

/-- The rest of a block comment is blanked out, and after it the pass stands where it stood, unless
a line feed has ended the line. -/
theorem strip_block (hides inLine : Bool) {t body rest : Text}
    (h : splitAtClose? t = some (body, rest)) :
    strip hides (.block inLine) t =
      body.map blankOut ++ strip hides (.outside (inLine && !body.contains '\n')) rest := by
  fun_induction splitAtClose? t generalizing inLine body rest with
  | case1 => cases h
  | case2 => cases h
  | case3 c d r hc =>
    cases h
    obtain ⟨rfl, rfl⟩ := hc
    cases inLine <;> rfl
  | case4 c d r hc ih =>
    obtain ⟨⟨u, v⟩, hp, he⟩ := Option.map_eq_some_iff.mp h
    cases he
    have hstep : Place.step hides (.block inLine) c (d :: r) =
        (true, .block (inLine && c ≠ '\n')) := by
      have hcd : (c = '*' && (d :: r).head? = some '/') = false := by simpa using hc
      simp only [Place.step, hcd, Bool.false_eq_true, if_false]
    rw [strip_cons, hstep, ih _ hp]
    by_cases hn : c = '\n'
    · simp [hn]
    · simp [hn, eq_comm]

/-- Blanking out block comments and then line comments is one pass in which line comments hide
nothing. -/
theorem blankLineComments_blankBlockComments (inLine : Bool) (t : Text) :
    blankLineComments inLine (blankBlockComments t) = strip false (.outside inLine) t := by
  induction hn : t.length using Nat.strongRecOn generalizing t inLine with
  | ind n ih =>
    cases hb : atBlock t with
    | true =>
      obtain ⟨body, rest, rfl, hs⟩ := atBlock_iff.mp hb
      have hrest : rest.length < n := by simp at hn; omega
      have hblank : ∀ c ∈ ' ' :: ' ' :: body.map blankOut, c = ' ' ∨ c = '\n' := by
        simpa using fun c _ => blankOut_blank c
      have hcontains : (' ' :: ' ' :: body.map blankOut).contains '\n' = body.contains '\n' :=
        contains_map_blankOut body
      have hstep : Place.step false (.outside inLine) '/' ('*' :: (body ++ rest)) =
          (true, .opening inLine) := by
        cases inLine <;> simp [Place.step, Place.outside, hb]
      rw [blankBlockComments_block hs, blankLineComments_blanks _ hblank, hcontains,
        ih _ hrest _ _ rfl, strip_cons, hstep, strip_cons]
      show _ = ' ' :: ' ' :: strip false (.block inLine) (body ++ rest)
      rw [strip_block false inLine hs]
      rfl
    | false =>
      cases t with
      | nil =>
        cases inLine <;>
          simp [blankBlockComments, blankLineComments, strip, marks, blankMarked]
      | cons c r =>
        have hr (b : Bool) :
            blankLineComments b (blankBlockComments r) = strip false (.outside b) r :=
          ih r.length (by simp at hn; omega) b r rfl
        rw [blankBlockComments_cons hb, strip_cons]
        cases inLine with
        | true =>
          rw [blankLineComments, hr]
          by_cases hc : c = '\n'
          · simp [Place.step, Place.outside, hc, blankOut]
          · simp [Place.step, Place.outside, hc, hb]
        | false =>
          have hslash : (blankBlockComments r).head? = some '/' ↔
              r.head? = some '/' ∧ atBlock r = false := by
            rw [head?_blankBlockComments]
            cases atBlock r <;> simp
          rw [blankLineComments]
          simp only [Place.step, Place.outside, hb, hslash, hr]
          by_cases hc : c = '/' ∧ r.head? = some '/' ∧ atBlock r = false
          · simp [hc, blankOut]
          · simp [hc, and_assoc]

/-! ### Where both passes agree -/

/-- Whether a block comment is open that began inside a line comment. -/
def Place.isInLine : Place → Bool
  | opening inLine => inLine
  | block inLine => inLine
  | closing inLine => inLine
  | _ => false

/-- Where a pass whose line comments hide marks stands at the same time. -/
def Place.hidden (p : Place) : Place := if p.isInLine then line else p

/-- Whether the passes part at a character: at a line feed in a block comment that began inside a
line comment, or at a slash that would begin a line comment but that a block comment follows. -/
def Place.parts (p : Place) (c : Char) (r : Text) : Bool :=
  (p.isInLine && c = '\n') || (p = code && c = '/' && atBlock r)

/-- Whether the passes part nowhere in a text. -/
def keepsLines : Place → Text → Bool
  | _, [] => true
  | p, c :: r => !p.parts c r && keepsLines (p.step false c r).2 r

theorem Place.step_hidden {p : Place} {c : Char} {r : Text} (h : p.parts c r = false) :
    p.hidden.step true c r = ((p.step false c r).1, (p.step false c r).2.hidden) := by
  obtain ⟨hfeed, hslash⟩ := Bool.or_eq_false_iff.mp h
  cases p with
  | code =>
    have hs : c = '/' → atBlock r = false := by simpa using hslash
    by_cases hb : atBlock (c :: r) = true
    · simp [step, hidden, isInLine, hb]
    by_cases hc : c = '/' ∧ r.head? = some '/'
    · obtain ⟨rfl, hr⟩ := hc
      simp [step, hidden, isInLine, hb, hr, hs rfl]
    · simp [step, hidden, isInLine, hb, hc]
  | line =>
    by_cases hc : c = '\n'
    · simp [step, hidden, isInLine, hc]
    · cases hb : atBlock (c :: r) <;> simp [step, hidden, isInLine, hc, hb]
  | opening inLine =>
    cases inLine with
    | false => rfl
    | true =>
      have hc : c ≠ '\n' := by simpa [isInLine] using hfeed
      simp [step, hidden, isInLine, hc]
  | block inLine =>
    cases inLine with
    | false =>
      by_cases hc : c = '*' ∧ r.head? = some '/' <;> simp [step, hidden, isInLine, hc]
    | true =>
      have hn : c ≠ '\n' := by simpa [isInLine] using hfeed
      by_cases hc : c = '*' ∧ r.head? = some '/' <;> simp [step, hidden, isInLine, hc, hn]
  | closing inLine =>
    cases inLine with
    | false => rfl
    | true =>
      have hc : c ≠ '\n' := by simpa [isInLine] using hfeed
      simp [step, hidden, isInLine, hc]

theorem Place.step_ne {p : Place} {c : Char} {r : Text} (h : p.parts c r = true) :
    (p.hidden.step true c r).1 ≠ (p.step false c r).1 := by
  rcases (Bool.or_eq_true _ _).mp h with h | h
  · obtain ⟨hp, hc⟩ : p.isInLine = true ∧ c = '\n' := by simpa using h
    cases p <;> simp_all [step, hidden, isInLine]
  · obtain ⟨⟨rfl, rfl⟩, hb⟩ : (p = code ∧ c = '/') ∧ atBlock r = true := by simpa using h
    obtain ⟨body, rest, rfl, -⟩ := atBlock_iff.mp hb
    have hslash : atBlock ('/' :: '/' :: '*' :: (body ++ rest)) = false := rfl
    simp [step, hidden, isInLine, hslash, hb]

theorem marks_eq_iff (p : Place) (t : Text) :
    marks false p t = marks true p.hidden t ↔ keepsLines p t = true := by
  induction t generalizing p with
  | nil => simp [marks, keepsLines]
  | cons c r ih =>
    rw [marks, marks, keepsLines, List.cons.injEq]
    cases h : p.parts c r with
    | true => simpa using fun he => absurd he.symm (Place.step_ne h)
    | false =>
      rw [Place.step_hidden h]
      simpa using ih _

theorem length_marks (hides : Bool) (p : Place) (t : Text) :
    (marks hides p t).length = t.length := by
  induction t generalizing p with
  | nil => rfl
  | cons c r ih => rw [marks, List.length_cons, List.length_cons, ih]

theorem blankOut_eq_self_iff (c : Char) : blankOut c = c ↔ c = ' ' ∨ c = '\n' := by
  unfold blankOut
  split_ifs with h
  · simp [h]
  · simp [h, eq_comm]

/-- What is left hangs on the marks of visible characters only. -/
theorem blankMarked_eq_iff {ms ns : List Bool} {t : Text} (hm : ms.length = t.length)
    (hn : ns.length = t.length) : blankMarked ms t = blankMarked ns t ↔
      ∀ i : ℕ, ms[i]? ≠ ns[i]? → t[i]? = some ' ' ∨ t[i]? = some '\n' := by
  induction t generalizing ms ns with
  | nil =>
    obtain rfl := List.length_eq_zero_iff.mp hm
    obtain rfl := List.length_eq_zero_iff.mp hn
    simp
  | cons c t ih =>
    obtain ⟨m, ms, rfl⟩ := List.exists_cons_of_length_eq_add_one hm
    obtain ⟨n, ns, rfl⟩ := List.exists_cons_of_length_eq_add_one hn
    have htail := ih (Nat.succ.inj hm) (Nat.succ.inj hn)
    have hhead : (if m then blankOut c else c) = (if n then blankOut c else c) ↔
        (m ≠ n → c = ' ' ∨ c = '\n') := by
      rw [← blankOut_eq_self_iff]
      cases m <;> cases n <;> simp [eq_comm]
    show (if m then blankOut c else c) :: blankMarked ms t =
      (if n then blankOut c else c) :: blankMarked ns t ↔ _
    rw [List.cons.injEq, hhead, htail]
    constructor
    · rintro ⟨hc, ht⟩ i hi
      cases i with
      | zero => simpa using hc (by simpa using hi)
      | succ i => exact ht i hi
    · intro h
      exact ⟨fun hc => by simpa using h 0 (by simpa using hc), fun i hi => h (i + 1) hi⟩

/-- Comments are blanked out as by one pass in which line comments hide nothing. What is left is
what the pass of C leaves exactly if the two passes differ at blanks only; and they differ nowhere
exactly if no block comment leaves the line of a line comment that it begins in, or begins at the
second slash of one. -/
theorem stripComments_eq_strip (t : Text) :
    stripComments t = strip false .code t ∧
    (stripComments t = strip true .code t ↔ ∀ i : ℕ,
      (marks false .code t)[i]? ≠ (marks true .code t)[i]? →
        t[i]? = some ' ' ∨ t[i]? = some '\n') ∧
    (marks false .code t = marks true .code t ↔ keepsLines .code t = true) := by
  have hpass : stripComments t = strip false .code t :=
    blankLineComments_blankBlockComments false t
  refine ⟨hpass, ?_, marks_eq_iff .code t⟩
  rw [hpass]
  exact blankMarked_eq_iff (length_marks _ _ _) (length_marks _ _ _)

/-- A block comment that begins in a line comment takes the next line with it, and one that begins
at the second slash uncovers the first slash and the rest of the line. -/
example : strip false .code "// /*\nf;*/".toList = "     \n    ".toList ∧
    strip true .code "// /*\nf;*/".toList = "     \nf;*/".toList ∧
    strip false .code "//**/f;".toList = "/    f;".toList ∧
    strip true .code "//**/f;".toList = "       ".toList := by
  decide

end HeaderBindings.Header
