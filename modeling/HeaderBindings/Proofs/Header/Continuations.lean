import HeaderBindings.Constant.Candidates
import HeaderBindings.Header.Declaration
import HeaderBindings.Proofs.Header.SourceLines

/-!
# Continuations

A line is continued on the next by a backslash at its end, before a line feed or before a carriage
return and a line feed. Carriage returns go before lines are joined, so a continuation of either
kind goes as a whole, wherever it stands: inside a token, between a carriage return and its line
feed, or next to other continuations. A text without backslashes is normalized to the same text
however it is continued, and the same is read from it.
-/
namespace HeaderBindings.Header

open Text

/-! ### Continued texts -/

/-- The end of a line that is joined to the next. -/
inductive Continuation
  | lineFeed
  | returnLineFeed
deriving DecidableEq, Repr

def Continuation.text : Continuation → Text
  | .lineFeed => ['\\', '\n']
  | .returnLineFeed => ['\\', '\r', '\n']

/-- A text with continuations at its positions: those that are given for a number stand, one after
another, before the character of that number, or at the end if there is none. -/
def continued (inserted : ℕ → List Continuation) : Text → Text
  | [] => (inserted 0).flatMap Continuation.text
  | c :: t =>
    (inserted 0).flatMap Continuation.text ++ c :: continued (fun n => inserted (n + 1)) t

/-! ### Normalized texts -/

/-- A continuation leaves nothing behind. -/
theorem normalize_continuation_append (k : Continuation) (t : Text) :
    normalize (k.text ++ t) = normalize t := by
  cases k <;> simp [Continuation.text, normalize, joinContinuations]

theorem normalize_continuations_append (ks : List Continuation) (t : Text) :
    normalize (ks.flatMap Continuation.text ++ t) = normalize t := by
  induction ks with
  | nil => rfl
  | cons k ks ih =>
    rw [List.flatMap_cons, List.append_assoc, normalize_continuation_append, ih]

theorem joinContinuations_cons_of_ne {c : Char} (h : c ≠ '\\') (t : Text) :
    joinContinuations (c :: t) = c :: joinContinuations t := by
  rw [joinContinuations]
  rintro r rfl
  exact absurd rfl h

/-- A character that is no backslash is normalized by itself. -/
theorem normalize_cons {c : Char} (h : c ≠ '\\') (t : Text) :
    normalize (c :: t) = if c = '\r' then normalize t else shown c :: normalize t := by
  have hshown : shown c ≠ '\\' := (shown_eq_iff (by decide) (by decide)).not.mpr h
  by_cases hc : c = '\r'
  · simp [normalize, hc]
  · rw [if_neg hc, normalize_eq, List.filter_cons_of_pos (by simpa using hc), List.map_cons,
      joinContinuations_cons_of_ne hshown, normalize_eq]

/-- However a text without backslashes is continued, it is normalized to the same text. -/
theorem normalize_continued {t : Text} (h : '\\' ∉ t) (inserted : ℕ → List Continuation) :
    normalize (continued inserted t) = normalize t := by
  induction t generalizing inserted with
  | nil =>
    have hend := normalize_continuations_append (inserted 0) []
    rwa [List.append_nil] at hend
  | cons c t ih =>
    obtain ⟨hc, ht⟩ := List.ne_and_not_mem_of_not_mem_cons h
    rw [continued, normalize_continuations_append, normalize_cons hc.symm, normalize_cons hc.symm,
      ih ht]

/-! ### What is read -/

/-- Continuations do not show in what is read from a header: neither in the text, nor in the
candidates for constants, nor in the declarations. -/
theorem continued_transparent {t : Text} (h : '\\' ∉ t) (inserted : ℕ → List Continuation) :
    normalize (continued inserted t) = normalize t ∧
    Constant.candidates (normalize (continued inserted t)) =
      Constant.candidates (normalize t) ∧
    ∀ mark, declarations mark (normalize (continued inserted t)) =
      declarations mark (normalize t) := by
  have hnormalize := normalize_continued h inserted
  exact ⟨hnormalize, congrArg _ hnormalize, fun mark => congrArg _ hnormalize⟩

/-- Continuations inside a word, before a carriage return, and between it and its line feed. -/
def insertedOften : ℕ → List Continuation
  | 3 => [.returnLineFeed]
  | 11 => [.lineFeed, .lineFeed]
  | 12 => [.lineFeed, .returnLineFeed]
  | _ => []

theorem continued_transparent_often :
    continued insertedOften "#define\tA 1\r\n".toList ≠ "#define\tA 1\r\n".toList ∧
    normalize (continued insertedOften "#define\tA 1\r\n".toList) = "#define A 1\n".toList := by
  refine ⟨by decide, ?_⟩
  rw [(continued_transparent (by decide) insertedOften).1]
  decide

end HeaderBindings.Header
