import HeaderBindings.PerlModule.Quote
import Mathlib.Data.List.Basic

/-!
# Reading quoted literals

A reader of quoted literals counts the braces that stand inside. A backslash before a brace or
another backslash is dropped, and the character after it is not counted; any other backslash stays.
A text is quoted in one of two ways, and either way the reader gives it back and stops where the
literal ends.
-/
namespace HeaderBindings.PerlModule

/-! ### The reader -/

/-- Characters that a backslash in front of them makes plain. -/
def isEscapable (c : Char) : Bool := c = '\\' || c = openBrace || c = closeBrace

/-- What was read with a character in front, and the rest. -/
def prepend (c : Char) (p : Text × Text) : Text × Text := (c :: p.1, p.2)

/-- What stands before the brace that closes a literal and what follows that brace, when so many
braces are open inside the literal. -/
def readBody? : ℕ → Text → Option (Text × Text)
  | _, [] => none
  | depth, '\\' :: d :: r =>
    if isEscapable d then (readBody? depth r).map (prepend d)
    else (readBody? depth (d :: r)).map (prepend '\\')
  | depth, c :: r =>
    if c = openBrace then (readBody? (depth + 1) r).map (prepend c)
    else if c = closeBrace then
      match depth with
      | 0 => some ([], r)
      | depth + 1 => (readBody? depth r).map (prepend c)
    else (readBody? depth r).map (prepend c)

/-- The text of the literal at the start of a text, and what follows it. -/
def readLiteral? (t : Text) : Option (Text × Text) :=
  (Text.dropPrefix? ['q', openBrace] t).bind (readBody? 0)

section Steps
variable {depth : ℕ} {c : Char} {r : Text}

theorem readBody?_escaped (h : isEscapable c = true) :
    readBody? depth ('\\' :: c :: r) = (readBody? depth r).map (prepend c) := by
  simp [readBody?, h]

theorem readBody?_end : readBody? 0 (closeBrace :: r) = some ([], r) := rfl

theorem readBody?_close :
    readBody? (depth + 1) (closeBrace :: r) = (readBody? depth r).map (prepend closeBrace) := rfl

theorem readBody?_open :
    readBody? depth (openBrace :: r) = (readBody? (depth + 1) r).map (prepend openBrace) := by
  cases depth <;> rfl

theorem readBody?_plain (h : isEscapable c = false) :
    readBody? depth (c :: r) = (readBody? depth r).map (prepend c) := by
  obtain ⟨⟨hb, ho⟩, hc⟩ : (c ≠ '\\' ∧ c ≠ openBrace) ∧ c ≠ closeBrace := by
    simpa [isEscapable] using h
  cases depth <;> simp [readBody?, hb, ho, hc]

end Steps

/-! ### Both ways of quoting -/

theorem escape_cons (c : Char) (r : Text) :
    escape (c :: r) = if isEscapable c then '\\' :: c :: escape r else c :: escape r := rfl

/-- Where every brace and every backslash has a backslash, none is counted. -/
theorem readBody?_escape (t s : Text) :
    readBody? 0 (escape t ++ closeBrace :: s) = some (t, s) := by
  induction t with
  | nil => exact readBody?_end
  | cons c r ih =>
    rw [escape_cons]
    split_ifs with h
    · rw [List.cons_append, List.cons_append, readBody?_escaped h, ih]
      rfl
    · rw [List.cons_append, readBody?_plain (by simpa using h), ih]
      rfl

/-- Balanced braces are counted, up to the one that closes the literal. -/
theorem readBody?_balanced {depth : ℕ} {t : Text} (hb : '\\' ∉ t)
    (h : balanced depth t = true) (s : Text) :
    readBody? depth (t ++ closeBrace :: s) = some (t, s) := by
  induction t generalizing depth with
  | nil =>
    obtain rfl : depth = 0 := by simpa [balanced] using h
    exact readBody?_end
  | cons c r ih =>
    obtain ⟨hc, hr⟩ := List.ne_and_not_mem_of_not_mem_cons hb
    rw [List.cons_append]
    rw [balanced.eq_def] at h
    dsimp only at h
    split_ifs at h with hopen hclose
    · subst hopen
      rw [readBody?_open, ih hr h]
      rfl
    · subst hclose
      cases depth with
      | zero => cases h
      | succ depth =>
        rw [readBody?_close, ih hr h]
        rfl
    · have hplain : isEscapable c = false := by simp [isEscapable, hc.symm, hopen, hclose]
      rw [readBody?_plain hplain, ih hr h]
      rfl

/-- What stands between the braces of a quoted text is read as that text. -/
theorem readBody?_quotedBody (t s : Text) :
    readBody? 0 (quotedBody t ++ closeBrace :: s) = some (t, s) := by
  rw [quotedBody]
  split_ifs with h
  · obtain ⟨hb, hbal⟩ : '\\' ∉ t ∧ balanced 0 t = true := by simpa using h
    exact readBody?_balanced hb hbal s
  · exact readBody?_escape t s

theorem quote_append (t s : Text) :
    quote t ++ s = ['q', openBrace] ++ (quotedBody t ++ closeBrace :: s) := by
  simp [quote]

/-- Escaping all at once is escaping backslashes first and then either brace. -/
theorem escape_eq_replaceChar (t : Text) :
    escape t = Text.replaceChar closeBrace ['\\', closeBrace]
      (Text.replaceChar openBrace ['\\', openBrace] (Text.replaceChar '\\' ['\\', '\\'] t)) := by
  induction t with
  | nil => rfl
  | cons c r ih =>
    have hcons (d : Char) (u v : Text) : Text.replaceChar d u (c :: v) =
        (if c = d then u else [c]) ++ Text.replaceChar d u v := rfl
    have happ (d : Char) (u v w : Text) : Text.replaceChar d u (v ++ w) =
        Text.replaceChar d u v ++ Text.replaceChar d u w := List.flatMap_append
    rw [hcons, happ, happ, escape, ih]
    by_cases hb : c = '\\'
    · subst hb
      rfl
    by_cases ho : c = openBrace
    · subst ho
      rfl
    by_cases hc : c = closeBrace
    · subst hc
      rfl
    · simp [hb, ho, hc, Text.replaceChar]

/-- A quoted text is read as that text, and what follows the literal is left. -/
theorem readLiteral?_quote_append (t s : Text) : readLiteral? (quote t ++ s) = some (t, s) := by
  rw [readLiteral?, quote_append, Text.dropPrefix?_append, Option.bind_some]
  exact readBody?_quotedBody t s

end HeaderBindings.PerlModule
