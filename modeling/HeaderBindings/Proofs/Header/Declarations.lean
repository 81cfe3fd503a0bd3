import HeaderBindings.Header.Declaration
import HeaderBindings.Proofs.Header.Uncommented
import HeaderBindings.Proofs.Text.Lines

/-!
# Declarations as they are written

A written declaration has blanks between any two of its tokens. It is read as one declaration,
whatever parentheses stand in its arguments: the first semicolon ends it, and the last closing
parenthesis before that ends the arguments. What stands between two declarations holds no mark and
does not end in a word, so no reading begins there. Hence the declarations of a text are those that
were written, in order.
-/
namespace HeaderBindings.Header

open Text

/-! ### The form of a declaration -/

/-- A declaration as it is written: the type and the arguments are what stands between their
parentheses, and blanks may stand before every token but the first. -/
structure Form where
  beforeType : Text
  returnType : Text
  beforeName : Text
  name : Text
  beforeArguments : Text
  arguments : Text
  beforeEnd : Text
deriving DecidableEq, Repr

namespace Form

def write (mark : Text) (f : Form) : Text :=
  mark ++ (f.beforeType ++ '(' :: (f.returnType ++ ')' :: (f.beforeName ++ (f.name ++
    (f.beforeArguments ++ '(' :: (f.arguments ++ ')' :: (f.beforeEnd ++ [';'])))))))

/-- What the parts of a declaration may be. -/
structure IsPlain (f : Form) : Prop where
  beforeType : ∀ c ∈ f.beforeType, isBlank c = true
  returnType : ∀ c ∈ f.returnType, c ≠ '(' ∧ c ≠ ')' ∧ c ≠ ';'
  beforeName : ∀ c ∈ f.beforeName, isBlank c = true
  name : isName f.name = true
  beforeArguments : ∀ c ∈ f.beforeArguments, isBlank c = true
  arguments : ';' ∉ f.arguments
  beforeEnd : ∀ c ∈ f.beforeEnd, isBlank c = true

/-- What is declared, at a given line. -/
def declaration (f : Form) (line : ℕ) : Declaration :=
  ⟨trim f.returnType, f.name, collapse f.arguments, line⟩

end Form

namespace Declaration

theorem after?_blanks_append {u : Text} (h : ∀ c ∈ u, isBlank c = true) (t : Text) :
    after? '(' (u ++ '(' :: t) = some t := by
  rw [after?, skipBlanks_blanks_append h, skipBlanks_cons_of_not (by decide)]
  exact dropPrefix?_append ['('] t

/-- Arguments end at the last closing parenthesis. -/
theorem beforeClosing?_append (t : Text) {u : Text} (h : ∀ c ∈ u, isBlank c = true) :
    beforeClosing? (t ++ ')' :: u) = some t := by
  have hp : isBlank ')' = false := by decide
  have hdrop : dropRightWhile isBlank (t ++ ')' :: u) = t ++ [')'] := by
    rw [List.append_cons, dropRightWhile_append_blanks h]
    simp [dropRightWhile, hp]
  simp [beforeClosing?, hdrop]

theorem atWord_blanks_append {u : Text} (h : ∀ c ∈ u, isBlank c = true) {c : Char}
    (hc : isWord c = false) (t : Text) : atWord (u ++ c :: t) = false := by
  cases u with
  | nil => exact hc
  | cons d u => exact isWord_of_isBlank (h d List.mem_cons_self)

/-- A written declaration is read whole, whatever follows. -/
theorem read?_write {f : Form} (h : f.IsPlain) (mark : Text) (line : ℕ) (t : Text) :
    read? mark line (f.write mark ++ t) = some (f.declaration line, t) := by
  have htype : ∀ c ∈ f.returnType, isTypeChar c = true := by
    intro c hc
    obtain ⟨ho, hcl, hs⟩ := h.returnType c hc
    simp [isTypeChar, ho, hcl, hs]
  have htake (u : Text) : (f.returnType ++ ')' :: u).takeWhile isTypeChar = f.returnType := by
    rw [List.takeWhile_append_of_pos htype]
    simp [isTypeChar]
  have hdrop (u : Text) : (f.returnType ++ ')' :: u).dropWhile isTypeChar = ')' :: u := by
    rw [List.dropWhile_append_of_pos htype]
    simp [isTypeChar]
  have hclose (u : Text) : dropPrefix? [')'] (')' :: u) = some u := by simp [dropPrefix?]
  have hname (u : Text) : readName? (skipBlanks (f.beforeName ++ (f.name ++ (f.beforeArguments ++
      '(' :: u)))) = some (f.name, f.beforeArguments ++ '(' :: u) := by
    obtain ⟨c, r, hn, hc, -⟩ := isName_iff.mp h.name
    have hstart : isBlank c = false := isBlank_of_isWord (isWord_of_isNameStart hc)
    rw [skipBlanks_blanks_append h.beforeName, hn, List.cons_append,
      skipBlanks_cons_of_not hstart, ← List.cons_append, ← hn]
    exact readName?_name_append h.name (atWord_blanks_append h.beforeArguments (by decide) u)
  have hbody : ';' ∉ f.arguments ++ ')' :: f.beforeEnd := by
    have hend : ';' ∉ f.beforeEnd := by
      intro hm
      have hb := h.beforeEnd _ hm
      revert hb
      decide
    simp [h.arguments, hend]
  have hcut : cutAt? ';' (f.arguments ++ ')' :: (f.beforeEnd ++ ';' :: t)) =
      some (f.arguments ++ ')' :: f.beforeEnd, t) := by
    rw [← cutAt?_append hbody t, List.append_assoc, List.cons_append]
  have hwrite : f.write mark ++ t = mark ++ (f.beforeType ++ '(' :: (f.returnType ++ ')' ::
      (f.beforeName ++ (f.name ++ (f.beforeArguments ++ '(' :: (f.arguments ++ ')' ::
        (f.beforeEnd ++ ';' :: t))))))) := by
    simp [Form.write]
  rw [hwrite, read?, dropPrefix?_append]
  simp only [Option.bind_eq_bind, Option.bind_some, after?_blanks_append h.beforeType, htake,
    hdrop, hclose, hname, after?_blanks_append h.beforeArguments, hcut,
    beforeClosing?_append f.arguments h.beforeEnd]
  rfl

/-! ### The scan -/

theorem read?_eq_none {mark t : Text} (h : ¬mark <+: t) (line : ℕ) : read? mark line t = none := by
  have hdrop : dropPrefix? mark t = none := by
    refine Option.eq_none_iff_forall_not_mem.mpr fun r hr => h ?_
    exact ⟨r, (dropPrefix?_eq_some_iff.mp hr).symm⟩
  rw [read?, hdrop]
  rfl

/-- Whether a text ends in a word character, or, if it is empty, whether what precedes it does. -/
def endsInWord (inWord : Bool) (t : Text) : Bool := (t.getLast?.map isWord).getD inWord

theorem endsInWord_cons (inWord : Bool) (c : Char) (t : Text) :
    endsInWord inWord (c :: t) = endsInWord (isWord c) t := by
  rw [endsInWord, endsInWord, List.getLast?_cons]
  cases t.getLast? <;> rfl

/-- Where no mark begins the scan goes on, a character at a time. -/
theorem scanFrom_append {mark s t : Text} (h : ∀ u, u ≠ [] → u <:+ s → ¬mark <+: u ++ t)
    (inWord : Bool) (line : ℕ) : scanFrom mark inWord line (s ++ t) =
      scanFrom mark (endsInWord inWord s) (line + s.count '\n') t := by
  induction s generalizing inWord line with
  | nil => rfl
  | cons c s ih =>
    have hread : read? mark line (c :: (s ++ t)) = none :=
      read?_eq_none (h (c :: s) (by simp) List.suffix_rfl) line
    have htail := ih (fun u hu hs => h u hu (hs.trans (List.suffix_cons c s)))
    have hline : (if c = '\n' then line + 1 else line) + s.count '\n' =
        line + (c :: s).count '\n' := by
      by_cases hc : c = '\n'
      · simp [hc]
        omega
      · simp [hc]
    rw [List.cons_append, scanFrom, hread, ite_self]
    rw [endsInWord_cons, ← hline]
    exact htail _ _

/-- At a mark that stands at the beginning of a word, what can be read is a declaration. -/
theorem scanFrom_of_read? {mark t rest : Text} {line : ℕ} {d : Declaration}
    (hm : atWord t = true) (h : read? mark line t = some (d, rest)) :
    scanFrom mark false line t =
      d :: scanFrom mark false (line + t.count '\n' - rest.count '\n') rest := by
  cases t with
  | nil => cases hm
  | cons c r =>
    have hc : isWord c = true := hm
    have hread : (if false ≠ isWord c then read? mark line (c :: r) else none) =
        some (d, rest) := by
      rw [hc, if_pos (by decide), h]
    rw [scanFrom]
    split
    · next d' rest' hd =>
      rw [hread] at hd
      obtain ⟨rfl, rfl⟩ := Prod.mk.inj (Option.some.inj hd)
      rfl
    · next hd =>
      rw [hread] at hd
      cases hd

end Declaration

/-! ### Texts of declarations -/

/-- What may stand before a declaration: it holds no mark and does not end in a word. -/
structure Precedes (mark s : Text) : Prop where
  free : ¬mark <:+: s
  apart : ∀ c ∈ s.getLast?, isWord c = false

/-- Declarations, each with what stands before it. -/
def written (mark : Text) (parts : List (Text × Form)) : Text :=
  parts.flatMap fun p => p.1 ++ p.2.write mark

/-- The declarations that are written behind a text. The line of each is one more than the number
of line feeds before its mark. -/
def listed (mark : Text) : Text → List (Text × Form) → List Declaration
  | _, [] => []
  | before, p :: parts =>
    p.2.declaration (1 + (before ++ p.1).count '\n') ::
      listed mark (before ++ p.1 ++ p.2.write mark) parts

section Written
variable {mark : Text} (hw : IsWordText mark)
include hw

/-- No mark begins in a text that precedes a declaration, whatever follows. -/
theorem Precedes.not_prefix {s : Text} (hs : Precedes mark s) {u : Text} (hu : u ≠ [])
    (hsuffix : u <:+ s) (t : Text) : ¬mark <+: u ++ t := by
  intro hp
  rcases List.prefix_or_prefix_of_prefix hp (List.prefix_append u t) with hmu | hum
  · exact hs.free (hmu.isInfix.trans hsuffix.isInfix)
  · have hlast : u.getLast hu ∈ s.getLast? := by
      obtain ⟨v, rfl⟩ := hsuffix
      rw [List.getLast?_append_of_ne_nil v hu, List.getLast?_eq_getLast_of_ne_nil hu]
      rfl
    have hword := hw _ (hum.mem (List.getLast_mem hu))
    rw [hs.apart _ hlast] at hword
    cases hword

theorem atWord_write (hne : mark ≠ []) (f : Form) (t : Text) :
    atWord (f.write mark ++ t) = true := by
  obtain ⟨c, r, rfl⟩ := List.exists_cons_of_ne_nil hne
  exact hw c List.mem_cons_self

/-- The declarations that are written behind a text are found on their lines. -/
theorem scanFrom_written (hne : mark ≠ []) {parts : List (Text × Form)}
    (h : ∀ p ∈ parts, Precedes mark p.1 ∧ p.2.IsPlain) {rest : Text} (hr : ¬mark <:+: rest)
    (before : Text) : Declaration.scanFrom mark false (1 + before.count '\n')
      (written mark parts ++ rest) = listed mark before parts := by
  induction parts generalizing before with
  | nil =>
    have hmark : ∀ u, u ≠ [] → u <:+ rest → ¬mark <+: u ++ [] :=
      fun u _ hu hp => hr ((u.append_nil ▸ hp).isInfix.trans hu.isInfix)
    have hscan := Declaration.scanFrom_append hmark false (1 + before.count '\n')
    rw [List.append_nil] at hscan
    rw [written, List.flatMap_nil, List.nil_append, hscan]
    simp [Declaration.scanFrom, listed]
  | cons p parts ih =>
    obtain ⟨⟨hs, hf⟩, hparts⟩ := List.forall_mem_cons.mp h
    obtain ⟨s, f⟩ := p
    have htext : written mark ((s, f) :: parts) ++ rest =
        s ++ (f.write mark ++ (written mark parts ++ rest)) := by
      simp [written]
    have hflag : Declaration.endsInWord false s = false := by
      cases hl : s.getLast? with
      | none => simp [Declaration.endsInWord, hl]
      | some c => simp [Declaration.endsInWord, hl, hs.apart c hl]
    have hread := Declaration.read?_write hf mark (1 + (before ++ s).count '\n')
      (written mark parts ++ rest)
    have hline : 1 + (before ++ s).count '\n' +
        (f.write mark ++ (written mark parts ++ rest)).count '\n' -
          (written mark parts ++ rest).count '\n' =
        1 + (before ++ s ++ f.write mark).count '\n' := by
      simp only [List.count_append]
      omega
    rw [htext, Declaration.scanFrom_append (fun u hu hus => hs.not_prefix hw hu hus _), hflag,
      Nat.add_assoc, ← List.count_append,
      Declaration.scanFrom_of_read? (atWord_write hw hne f _) hread, hline, ih hparts, listed]

end Written

/-- A name has a short name if it begins with the prefix and is longer. -/
theorem isSome_shortName?_iff {libraryPrefix name : Text} :
    (shortName? libraryPrefix name).isSome = true ↔
      libraryPrefix <+: name ∧ libraryPrefix.length < name.length := by
  unfold shortName?
  split
  · next c r h =>
    obtain rfl := dropPrefix?_eq_some_iff.mp h
    simp
  · next hnone =>
    refine iff_of_false (by simp) ?_
    rintro ⟨⟨r, rfl⟩, hlen⟩
    cases r with
    | nil => simp at hlen
    | cons c r => exact hnone c r (dropPrefix?_append libraryPrefix (c :: r))

/-- In a text without comments that is made of declarations and of texts that may precede them,
just these declarations are found; those of the library have its prefix and something after it. -/
theorem declarations_written {mark : Text} (hne : mark ≠ []) (hw : IsWordText mark)
    {parts : List (Text × Form)} (h : ∀ p ∈ parts, Precedes mark p.1 ∧ p.2.IsPlain) {rest : Text}
    (hr : ¬mark <:+: rest) (hl : ¬['/', '/'] <:+: written mark parts ++ rest)
    (hb : ¬['/', '*'] <:+: written mark parts ++ rest) (libraryPrefix : Text) :
    declarations mark (written mark parts ++ rest) = listed mark [] parts ∧
    (declarations mark (written mark parts ++ rest)).filter
        (fun d => (shortName? libraryPrefix d.name).isSome) =
      (listed mark [] parts).filter fun d =>
        libraryPrefix <+: d.name ∧ libraryPrefix.length < d.name.length := by
  have hall : declarations mark (written mark parts ++ rest) = listed mark [] parts := by
    rw [declarations, stripComments_eq_self hl hb]
    exact scanFrom_written hw hne h hr []
  refine ⟨hall, ?_⟩
  rw [hall]
  refine List.filter_congr fun d _ => ?_
  rw [Bool.eq_iff_iff, isSome_shortName?_iff, decide_eq_true_iff]

/-- A function of the library with nested parentheses in its arguments, and one of another name. -/
def twoForms : List (Text × Form) := [
  ("int f(MA);\n".toList, ⟨[' '], " CvMat * ".toList, ['\n'], "cvMake".toList, [],
    "int (*f)(MAP(a)),\n  int b) ".toList, ['\n', ' ']⟩),
  ("\n#".toList, ⟨[], "int".toList, [], "cv".toList, [' '], [], []⟩)]

theorem declarations_written_twoForms :
    (∀ p ∈ twoForms, Precedes "MAP".toList p.1 ∧ p.2.IsPlain) ∧
    (declarations "MAP".toList (written "MAP".toList twoForms ++ " MA".toList)).map (·.line) =
      [2, 6] ∧
    (declarations "MAP".toList (written "MAP".toList twoForms ++ " MA".toList)).filter
        (fun d => (shortName? "cv".toList d.name).isSome) =
      [⟨"CvMat *".toList, "cvMake".toList, "int (*f)(MAP(a)), int b)".toList, 2⟩] := by
  have hparts : ∀ p ∈ twoForms, Precedes "MAP".toList p.1 ∧ p.2.IsPlain := by
    have hfirst : Precedes "MAP".toList "int f(MA);\n".toList :=
      ⟨by decide, fun _ hc => by cases hc; decide⟩
    have hsecond : Precedes "MAP".toList "\n#".toList :=
      ⟨by decide, fun _ hc => by cases hc; decide⟩
    refine List.forall_mem_cons.mpr ⟨⟨hfirst, ?_⟩, List.forall_mem_singleton.mpr ⟨hsecond, ?_⟩⟩ <;>
    exact ⟨by decide, by decide, by decide, by decide, by decide, by decide, by decide⟩
  have hword : IsWordText "MAP".toList := .of_isName (by decide)
  have hrest : ¬"MAP".toList <:+: " MA".toList := by decide
  obtain ⟨hall, hown⟩ := declarations_written (by decide) hword hparts hrest (by decide +kernel)
    (by decide +kernel) "cv".toList
  refine ⟨hparts, ?_, ?_⟩
  · rw [hall]
    rfl
  · rw [hown]
    decide +kernel

end HeaderBindings.Header
