import HeaderBindings.Text.Lines
import HeaderBindings.Proofs.Text.Pieces
import Mathlib.Data.List.Basic

/-!
# Lines and words of joined texts

A text that is joined from pieces can be cut into them again: at a character that a piece does not
have, into lines that are written one behind another, or into words with spaces between them.
-/
namespace HeaderBindings.Text

/-! ### Joining -/

theorem join_cons (sep t : Text) (ts : List Text) :
    join sep (t :: ts) = t ++ ts.flatMap (sep ++ ·) := by
  induction ts generalizing t with
  | nil => simp [join]
  | cons u ts ih => simp [join, ih]

theorem join_concat (sep : Text) (ts : List Text) (t : Text) :
    join sep (ts ++ [t]) = ts.flatMap (· ++ sep) ++ t := by
  induction ts with
  | nil => rfl
  | cons u ts ih =>
    rw [List.flatMap_cons, List.append_assoc, ← ih]
    cases ts <;> simp [join]

theorem not_mem_join {sep : Text} {ts : List Text} {c : Char} (hs : c ∉ sep)
    (h : ∀ t ∈ ts, c ∉ t) : c ∉ join sep ts := by
  cases ts with
  | nil => exact List.not_mem_nil
  | cons t ts =>
    obtain ⟨ht, hts⟩ := List.forall_mem_cons.mp h
    rw [join_cons, List.mem_append, List.mem_flatMap]
    rintro (hm | ⟨u, hu, hm⟩)
    · exact ht hm
    · exact (List.mem_append.mp hm).elim hs (hts u hu)

theorem mem_join {sep p : Text} {ts : List Text} (hp : p ∈ ts) {c : Char} (hc : c ∈ p) :
    c ∈ join sep ts := by
  cases ts with
  | nil => cases hp
  | cons t ts =>
    rw [join_cons]
    rcases List.mem_cons.mp hp with rfl | hp
    · exact List.mem_append_left _ hc
    · exact List.mem_append_right _ (List.mem_flatMap.mpr ⟨p, hp, List.mem_append_right _ hc⟩)

theorem isTrimmed_join {sep : Char} (hs : isBlank sep = false) {ts : List Text}
    (h : ∀ t ∈ ts, IsTrimmed t) : IsTrimmed (join [sep] ts) := by
  induction ts with
  | nil => exact isTrimmed_of_forall (by simp [join])
  | cons t ts ih =>
    obtain ⟨ht, hts⟩ := List.forall_mem_cons.mp h
    cases ts with
    | nil => exact ht
    | cons u ts =>
      have hj : join [sep] (t :: u :: ts) = t ++ sep :: join [sep] (u :: ts) := by simp [join]
      rw [hj]
      refine ⟨fun c hc => ?_, fun c hc => ?_⟩
      · cases t with
        | nil =>
          cases hc
          exact hs
        | cons d t => exact ht.1 c hc
      · rcases eq_or_ne (join [sep] (u :: ts)) [] with hnil | hne
        · rw [hnil, List.getLast?_concat] at hc
          cases hc
          exact hs
        · rw [List.append_cons, List.getLast?_append_of_ne_nil _ hne] at hc
          exact (ih hts).2 c hc

/-! ### Cutting -/

theorem drop_onto (c : Char) (ps : List Text) : (onto c ps).drop 1 = ps.drop 1 := by
  cases ps <;> rfl

/-- A text goes in front of the first piece. -/
theorem foldr_onto (p q : Text) (ps : List Text) : p.foldr onto (q :: ps) = (p ++ q) :: ps := by
  induction p with
  | nil => rfl
  | cons c p ih =>
    rw [List.foldr_cons, ih]
    rfl

theorem cutAt?_append {c : Char} {t : Text} (h : c ∉ t) (r : Text) :
    cutAt? c (t ++ c :: r) = some (t, r) := by
  induction t with
  | nil => simp [cutAt?]
  | cons d t ih =>
    obtain ⟨hd, ht⟩ := List.ne_and_not_mem_of_not_mem_cons h
    rw [List.cons_append, cutAt?, if_neg (Ne.symm hd), ih ht]
    rfl

/-- A piece has no characters of its own. -/
theorem mem_of_mem_splitOn {sep : Char} {t p : Text} (h : p ∈ splitOn sep t) : ∀ c ∈ p, c ∈ t := by
  induction t generalizing p with
  | nil =>
    rw [List.mem_singleton.mp h]
    exact fun c hc => hc
  | cons d t ih =>
    rw [splitOn] at h
    split_ifs at h
    · rcases List.mem_cons.mp h with rfl | h
      · exact fun c hc => absurd hc List.not_mem_nil
      · exact fun c hc => List.mem_cons_of_mem _ (ih h c hc)
    · split at h
      · next hnil =>
        rw [List.mem_singleton.mp h]
        exact fun c hc => by simpa using Or.inl (List.mem_singleton.mp hc)
      · next first more hsplit =>
        rw [hsplit] at ih
        rcases List.mem_cons.mp h with rfl | h
        · refine List.forall_mem_cons.mpr ⟨List.mem_cons_self, fun c hc => ?_⟩
          exact List.mem_cons_of_mem _ (ih List.mem_cons_self c hc)
        · exact fun c hc => List.mem_cons_of_mem _ (ih (List.mem_cons_of_mem _ h) c hc)

/-- A character that is no separator is in one of the pieces. -/
theorem exists_mem_splitOn {sep c : Char} {t : Text} (h : c ∈ t) (hc : c ≠ sep) :
    ∃ p ∈ splitOn sep t, c ∈ p := by
  induction t with
  | nil => cases h
  | cons d t ih =>
    rw [splitOn]
    split_ifs with hd
    · rcases List.mem_cons.mp h with rfl | h
      · exact absurd hd hc
      · obtain ⟨p, hp, hm⟩ := ih h
        exact ⟨p, List.mem_cons_of_mem _ hp, hm⟩
    · split
      · next hnil =>
        rcases List.mem_cons.mp h with rfl | h
        · exact ⟨[c], List.mem_singleton_self _, List.mem_singleton_self _⟩
        · obtain ⟨p, hp, -⟩ := ih h
          rw [hnil] at hp
          cases hp
      · next first more hsplit =>
        rcases List.mem_cons.mp h with rfl | h
        · exact ⟨c :: first, List.mem_cons_self, List.mem_cons_self⟩
        · obtain ⟨p, hp, hm⟩ := ih h
          rw [hsplit] at hp
          rcases List.mem_cons.mp hp with rfl | hp
          · exact ⟨d :: p, List.mem_cons_self, List.mem_cons_of_mem _ hm⟩
          · exact ⟨p, List.mem_cons_of_mem _ hp, hm⟩

theorem splitOn_ne_nil (sep : Char) (t : Text) : splitOn sep t ≠ [] := by
  cases t with
  | nil => exact List.cons_ne_nil _ _
  | cons c t =>
    rw [splitOn]
    split_ifs
    · exact List.cons_ne_nil _ _
    · split <;> exact List.cons_ne_nil _ _

/-- No piece has the separator. -/
theorem not_mem_of_mem_splitOn {sep : Char} {t p : Text} (h : p ∈ splitOn sep t) : sep ∉ p := by
  induction t generalizing p with
  | nil =>
    rw [List.mem_singleton.mp h]
    exact List.not_mem_nil
  | cons c t ih =>
    rw [splitOn] at h
    split_ifs at h with hc
    · rcases List.mem_cons.mp h with rfl | h
      · exact List.not_mem_nil
      · exact ih h
    · split at h
      · rw [List.mem_singleton.mp h]
        exact fun hm => hc (List.mem_singleton.mp hm).symm
      · next first more hsplit =>
        rw [hsplit] at ih
        rcases List.mem_cons.mp h with rfl | h
        · rintro (_ | ⟨_, hm⟩)
          · exact hc rfl
          · exact ih List.mem_cons_self hm
        · exact ih (List.mem_cons_of_mem _ h)

theorem splitOn_join_singleton {sep : Char} {t : Text} {ts : List Text}
    (h : ∀ u ∈ t :: ts, sep ∉ u) : splitOn sep (join [sep] (t :: ts)) = t :: ts := by
  have hcut := splitOn_join List.not_mem_nil h
  rwa [List.map_congr_left fun u _ => List.nil_append u, List.map_id'] at hcut

/-- The pieces between separators are the text again. -/
theorem join_splitOn (sep : Char) (t : Text) : join [sep] (splitOn sep t) = t := by
  induction t with
  | nil => rfl
  | cons c t ih =>
    obtain ⟨p, ps, hp⟩ := List.exists_cons_of_ne_nil (splitOn_ne_nil sep t)
    rw [hp, join_cons] at ih
    rw [splitOn]
    split_ifs with hc
    · rw [hp, join_cons, List.flatMap_cons, List.append_assoc, ih, hc]
      rfl
    · rw [hp]
      dsimp only
      rw [join_cons, List.cons_append, ih]

/-- A list is read if each of its members is. -/
theorem mapM_map_eq_some {α β γ : Type} {read : β → Option γ} {write : α → β} {f : α → γ}
    {as : List α} (h : ∀ a ∈ as, read (write a) = some (f a)) :
    (as.map write).mapM read = some (as.map f) := by
  induction as with
  | nil => rfl
  | cons a as ih =>
    obtain ⟨ha, has⟩ := List.forall_mem_cons.mp h
    simp [ha, ih has]

/-! ### Lines -/

theorem lines_append {l : Text} (h : '\n' ∉ l) (t : Text) : lines (l ++ '\n' :: t) = l :: lines t :=
  splitOn_append h t

/-- A line feed ends the lines of what stands before it. -/
theorem lines_append_lines (t u : Text) : lines (t ++ '\n' :: u) = lines t ++ lines u := by
  unfold lines
  induction t with
  | nil => simp [splitOn]
  | cons c t ih =>
    rw [List.cons_append, splitOn, splitOn, ih]
    split_ifs
    · rfl
    · obtain ⟨p, ps, hp⟩ := List.exists_cons_of_ne_nil (splitOn_ne_nil '\n' t)
      rw [hp]
      rfl

theorem lines_of_not_mem {t : Text} (h : '\n' ∉ t) : lines t = [t] := splitOn_eq_self h

/-- What stands before a text on its first line belongs to that line alone. -/
theorem exists_lines_append {u : Text} (h : '\n' ∉ u) (t : Text) :
    ∃ l ls, lines t = l :: ls ∧ lines (u ++ t) = (u ++ l) :: ls := by
  unfold lines
  induction u with
  | nil =>
    obtain ⟨l, ls, hl⟩ := List.exists_cons_of_ne_nil (splitOn_ne_nil '\n' t)
    exact ⟨l, ls, hl, hl⟩
  | cons c u ih =>
    obtain ⟨hc, hu⟩ := List.ne_and_not_mem_of_not_mem_cons h
    obtain ⟨l, ls, ht, hut⟩ := ih hu
    refine ⟨l, ls, ht, ?_⟩
    rw [List.cons_append, splitOn, if_neg hc.symm, hut]
    rfl

/-- Lines with their line feeds are cut off one by one. -/
theorem lines_flatMap_append {ls : List Text} (h : ∀ l ∈ ls, '\n' ∉ l) (t : Text) :
    lines (ls.flatMap (· ++ ['\n']) ++ t) = ls ++ lines t := by
  induction ls with
  | nil => rfl
  | cons l ls ih =>
    obtain ⟨hl, hls⟩ := List.forall_mem_cons.mp h
    have hcut : (l :: ls).flatMap (· ++ ['\n']) ++ t =
        l ++ '\n' :: (ls.flatMap (· ++ ['\n']) ++ t) := by simp
    rw [hcut, lines_append hl, ih hls, List.cons_append]

/-- The lines of a text with a line feed before each are the text behind a line feed. -/
theorem flatMap_lines (t : Text) : (lines t).flatMap ('\n' :: ·) = '\n' :: t := by
  unfold lines
  induction t with
  | nil => rfl
  | cons c t ih =>
    rw [splitOn]
    split_ifs with hc
    · rw [List.flatMap_cons, ih, hc]
      rfl
    · split
      · next hnone =>
        rw [hnone] at ih
        cases ih
      · next l ls hcut =>
        rw [hcut, List.flatMap_cons] at ih
        have htail := (List.cons.inj ih).2
        simpa using htail

/-- A line feed at the end begins an empty line. -/
theorem lines_concat_newline (t : Text) : lines (t ++ ['\n']) = lines t ++ [[]] :=
  lines_append_lines t []

/-- Lines that are joined are the lines of the text. -/
theorem lines_join {l : Text} {ls : List Text} (h : ∀ u ∈ l :: ls, '\n' ∉ u) :
    lines (join ['\n'] (l :: ls)) = l :: ls :=
  splitOn_join_singleton h

/-- The lines of texts that are joined are the lines of each, in order. -/
theorem lines_join_flatMap (t : Text) (ts : List Text) :
    lines (join ['\n'] (t :: ts)) = (t :: ts).flatMap lines := by
  induction ts generalizing t with
  | nil => simp [join]
  | cons u ts ih =>
    rw [join, List.append_assoc, List.singleton_append, lines_append_lines, ih]
    rfl

/-! ### Words -/

theorem skipBlanks_eq_self {t : Text} (h : ∀ c ∈ t, isBlank c = false) : skipBlanks t = t := by
  cases t with
  | nil => rfl
  | cons c t => exact skipBlanks_cons_of_not (h c List.mem_cons_self) t

/-- A word: not empty and without blanks. -/
def IsPiece (t : Text) : Prop := t ≠ [] ∧ ∀ c ∈ t, isBlank c = false

theorem words_nil : words [] = [] := by
  unfold words
  rfl

theorem words_append {w : Text} (hw : IsPiece w) {t : Text}
    (ht : ∀ c ∈ t.head?, isBlank c = true) : words (w ++ t) = w :: words t := by
  obtain ⟨hne, hb⟩ := hw
  obtain ⟨c, r, rfl⟩ := List.exists_cons_of_ne_nil hne
  obtain ⟨hc, hr⟩ := List.forall_mem_cons.mp hb
  have hskip : skipBlanks (c :: r ++ t) = c :: (r ++ t) := skipBlanks_cons_of_not hc _
  have hr' : ∀ d ∈ r, (!isBlank d) = true := fun d hd => by rw [hr d hd]; rfl
  have hspan : t.takeWhile (!isBlank ·) = [] ∧ t.dropWhile (!isBlank ·) = t := by
    cases t with
    | nil => exact ⟨rfl, rfl⟩
    | cons d s => simpa using ht d rfl
  conv_lhs => unfold words
  split
  · next h => rw [hskip] at h; cases h
  · next d s h =>
    rw [hskip] at h
    obtain ⟨rfl, rfl⟩ := List.cons.inj h
    rw [List.takeWhile_append_of_pos hr', List.dropWhile_append_of_pos hr', hspan.1, hspan.2,
      List.append_nil]

theorem words_space_cons (t : Text) : words (' ' :: t) = words t := by
  have hskip : skipBlanks (' ' :: t) = skipBlanks t := rfl
  rw [words.eq_def, words.eq_def t, hskip]

/-- Words that are joined by spaces are the words of the text. -/
theorem words_join {ts : List Text} (h : ∀ t ∈ ts, IsPiece t) : words (join [' '] ts) = ts := by
  induction ts with
  | nil => exact words_nil
  | cons t ts ih =>
    obtain ⟨ht, hts⟩ := List.forall_mem_cons.mp h
    cases ts with
    | nil =>
      have hlast := words_append ht (t := []) (by simp)
      rwa [List.append_nil, words_nil] at hlast
    | cons u ts =>
      have hj : join [' '] (t :: u :: ts) = t ++ ' ' :: join [' '] (u :: ts) := by simp [join]
      have hb : ∀ c ∈ (' ' :: join [' '] (u :: ts)).head?, isBlank c = true := by
        rintro c ⟨⟩
        decide
      rw [hj, words_append ht hb, words_space_cons, ih hts]

end HeaderBindings.Text
