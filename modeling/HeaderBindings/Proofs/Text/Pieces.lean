import HeaderBindings.Text.Blank
import HeaderBindings.Text.Word
import Mathlib.Data.List.TakeDrop
import Mathlib.Data.List.TakeWhile

/-!
# Words, blanks and pieces of texts

No word character is a blank. A text is trimmed already when it neither begins nor ends with a
blank, and texts without a separator that are joined by it are the pieces that it cuts.
-/
namespace HeaderBindings.Text

/-! ### Characters -/

/-- What holds of all characters of a text is decided along the text, not along all characters. -/
instance (priority := high) decidableForallMem (p : Char → Prop) [DecidablePred p] (t : Text) :
    Decidable (∀ c ∈ t, p c) :=
  List.decidableBAll p t

/-- The code points of all blanks. -/
def blankPoints : List ℕ := blankTable.flatMap fun r => List.range' r.1 (r.2 + 1 - r.1)

theorem mem_blankPoints {c : Char} (h : isBlank c = true) : c.toNat ∈ blankPoints := by
  obtain ⟨r, hr, hl, hu⟩ := inRanges_iff.mp h
  refine List.mem_flatMap.mpr ⟨r, hr, List.mem_range'_1.mpr ⟨hl, ?_⟩⟩
  omega

theorem isWord_blankPoints : ∀ n ∈ blankPoints, isWord (Char.ofNat n) = false := by
  decide +kernel

theorem isWord_of_isBlank {c : Char} (h : isBlank c = true) : isWord c = false := by
  have hc := isWord_blankPoints _ (mem_blankPoints h)
  rwa [Char.ofNat_toNat] at hc

theorem isBlank_of_isWord {c : Char} (h : isWord c = true) : isBlank c = false := by
  by_contra hb
  rw [isWord_of_isBlank (by simpa using hb)] at h
  cases h

theorem ne_of_isBlank {c d : Char} (hc : isBlank c = false) (hd : isBlank d = true) : c ≠ d := by
  rintro rfl
  rw [hc] at hd
  cases hd

theorem isWord_of_isNameStart {c : Char} (h : isNameStart c = true) : isWord c = true := by
  simp only [isNameStart, Bool.or_eq_true, beq_iff_eq] at h
  rcases h with h | rfl
  · have hlt : c.toNat < 128 := by
      rcases (Bool.or_eq_true _ _).mp h with hu | hl
      · have hle : c.val ≤ 'Z'.val := (of_decide_eq_true hu).2
        exact lt_of_le_of_lt (UInt32.le_iff_toNat_le.mp hle) (by decide)
      · have hle : c.val ≤ 'z'.val := of_decide_eq_true ((Bool.and_eq_true _ _).mp hl).2
        exact lt_of_le_of_lt (UInt32.le_iff_toNat_le.mp hle) (by decide)
    simp [isWord, hlt, Char.isAlphanum, h]
  · rfl

/-- A text of word characters. -/
def IsWordText (t : Text) : Prop := ∀ c ∈ t, isWord c = true

theorem IsWordText.not_mem {t : Text} (h : IsWordText t) {c : Char} (hc : isWord c = false) :
    c ∉ t := by
  intro hm
  rw [h c hm] at hc
  cases hc

theorem isName_iff {t : Text} : isName t = true ↔
    ∃ c r, t = c :: r ∧ isNameStart c = true ∧ IsWordText r := by
  cases t with
  | nil => simp [isName, readName?]
  | cons c r =>
    by_cases hc : isNameStart c = true
    · have hr : r.dropWhile isWord = [] ↔ IsWordText r := List.dropWhile_eq_nil_iff
      cases hd : r.dropWhile isWord with
      | nil => simp [isName, readName?, hc, hd, ← hr]
      | cons d s => simp [isName, readName?, hc, hd, ← hr]
    · simp [isName, readName?, hc]

theorem IsWordText.of_isName {t : Text} (h : isName t = true) : IsWordText t := by
  obtain ⟨c, r, rfl, hc, hr⟩ := isName_iff.mp h
  intro d hd
  rcases List.mem_cons.mp hd with rfl | hd
  · exact isWord_of_isNameStart hc
  · exact hr d hd

/-! ### Names -/

/-- A name is read as far as its last word character. -/
theorem readName?_name_append {name rest : Text} (hn : isName name = true)
    (hr : atWord rest = false) : readName? (name ++ rest) = some (name, rest) := by
  obtain ⟨c, r, rfl, hc, hw⟩ := isName_iff.mp hn
  have ht : rest.takeWhile isWord = [] ∧ rest.dropWhile isWord = rest := by
    cases rest with
    | nil => exact ⟨rfl, rfl⟩
    | cons d s => simpa [atWord] using hr
  rw [List.cons_append, readName?, if_pos hc, List.takeWhile_append_of_pos hw,
    List.dropWhile_append_of_pos hw, ht.1, ht.2, List.append_nil]

theorem isName_of_readName? {t name rest : Text} (h : readName? t = some (name, rest)) :
    isName name = true := by
  cases t with
  | nil => cases h
  | cons c r =>
    rw [readName?] at h
    split_ifs at h with hc
    cases h
    exact isName_iff.mpr ⟨c, _, rfl, hc, fun d hd => List.mem_takeWhile_imp hd⟩

/-- Behind a name stands no word character. -/
theorem atWord_of_readName? {t name rest : Text} (h : readName? t = some (name, rest)) :
    atWord rest = false := by
  cases t with
  | nil => cases h
  | cons c r =>
    rw [readName?] at h
    split_ifs at h
    cases h
    have hd := List.head?_dropWhile_not isWord r
    cases hr : r.dropWhile isWord with
    | nil => rfl
    | cons d s =>
      rw [hr] at hd
      exact hd

/-! ### Trimming -/

theorem skipBlanks_cons_of_not {c : Char} (h : isBlank c = false) (t : Text) :
    skipBlanks (c :: t) = c :: t := by
  simp [skipBlanks, h]

/-- A text whose ends are no blanks. -/
def IsTrimmed (t : Text) : Prop :=
  (∀ c ∈ t.head?, isBlank c = false) ∧ ∀ c ∈ t.getLast?, isBlank c = false

theorem trim_eq_self {t : Text} (h : IsTrimmed t) : trim t = t := by
  obtain ⟨hh, hl⟩ := h
  have hs : skipBlanks t = t := by
    cases t with
    | nil => rfl
    | cons c t => exact skipBlanks_cons_of_not (hh c rfl) t
  have hr : skipBlanks t.reverse = t.reverse := by
    cases hrev : t.reverse with
    | nil => rfl
    | cons c r =>
      have hc : t.getLast? = some c := by rw [← List.head?_reverse, hrev]; rfl
      exact skipBlanks_cons_of_not (hl c hc) r
  rw [trim, hs, dropRightWhile]
  exact (congrArg List.reverse hr).trans t.reverse_reverse

theorem isTrimmed_of_forall {t : Text} (h : ∀ c ∈ t, isBlank c = false) : IsTrimmed t :=
  ⟨fun c hc => h c (List.mem_of_mem_head? hc), fun c hc => h c (List.mem_of_mem_getLast? hc)⟩

theorem isTrimmed_concat {c e : Char} (hc : isBlank c = false) (he : isBlank e = false) (t : Text) :
    IsTrimmed (c :: (t ++ [e])) := by
  refine ⟨fun d hd => ?_, fun d hd => ?_⟩
  · cases hd
    exact hc
  · rw [← List.cons_append, List.getLast?_concat] at hd
    cases hd
    exact he

theorem IsWordText.isTrimmed {t : Text} (h : IsWordText t) : IsTrimmed t :=
  isTrimmed_of_forall fun c hc => isBlank_of_isWord (h c hc)

theorem skipBlanks_blanks_append {u : Text} (h : ∀ c ∈ u, isBlank c = true) (t : Text) :
    skipBlanks (u ++ t) = skipBlanks t :=
  List.dropWhile_append_of_pos h

theorem dropRightWhile_append_blanks {u : Text} (h : ∀ c ∈ u, isBlank c = true) (t : Text) :
    dropRightWhile isBlank (t ++ u) = dropRightWhile isBlank t := by
  have hu : ∀ c ∈ u.reverse, isBlank c = true := fun c hc => h c (List.mem_reverse.mp hc)
  rw [dropRightWhile, List.reverse_append, List.dropWhile_append_of_pos hu, dropRightWhile]

theorem dropRightWhile_append {p : Char → Bool} {t : Text} (h : ∀ c ∈ t.getLast?, p c = false)
    (u : Text) : dropRightWhile p (t ++ u) = t ++ dropRightWhile p u := by
  have ht : t.reverse.dropWhile p = t.reverse := by
    cases hr : t.reverse with
    | nil => rfl
    | cons c r =>
      have hc : t.getLast? = some c := by rw [← List.head?_reverse, hr]; rfl
      simp [h c hc]
  rw [dropRightWhile, List.reverse_append, List.dropWhile_append, dropRightWhile]
  cases hu : u.reverse.dropWhile p with
  | nil => simp [ht]
  | cons c r => simp

theorem dropRightWhile_eq_self {p : Char → Bool} {t : Text} (h : ∀ c ∈ t.getLast?, p c = false) :
    dropRightWhile p t = t := by
  simpa [dropRightWhile] using dropRightWhile_append h []

/-- Trimming a text that begins with a trimmed one touches only what follows that. -/
theorem trim_append {t : Text} (ht : IsTrimmed t) (hne : t ≠ []) (u : Text) :
    trim (t ++ u) = t ++ dropRightWhile isBlank u := by
  have hskip : skipBlanks (t ++ u) = t ++ u := by
    cases t with
    | nil => exact absurd rfl hne
    | cons c t => exact skipBlanks_cons_of_not (ht.1 c rfl) _
  rw [trim, hskip, dropRightWhile_append ht.2]

theorem trim_blanks_append {u : Text} (h : ∀ c ∈ u, isBlank c = true) (t : Text) :
    trim (u ++ t) = trim t := by
  rw [trim, skipBlanks_blanks_append h, trim]

theorem trim_append_blanks {u : Text} (h : ∀ c ∈ u, isBlank c = true) (t : Text) :
    trim (t ++ u) = trim t := by
  unfold trim
  cases ht : skipBlanks t with
  | nil =>
    have hblank := List.dropWhile_eq_nil_iff.mp ht
    have hu : skipBlanks (t ++ u) = [] :=
      List.dropWhile_eq_nil_iff.mpr (List.forall_mem_append.mpr ⟨hblank, h⟩)
    rw [hu]
  | cons c r =>
    have hu : skipBlanks (t ++ u) = skipBlanks t ++ u := by
      unfold skipBlanks at ht ⊢
      rw [List.dropWhile_append, ht]
      rfl
    rw [hu, ht, dropRightWhile_append_blanks h]

/-- What is dropped from the end of a text. -/
theorem exists_dropRightWhile_append (p : Char → Bool) (t : Text) :
    ∃ v, t = dropRightWhile p t ++ v ∧ ∀ c ∈ v, p c = true := by
  refine ⟨(t.reverse.takeWhile p).reverse, ?_, ?_⟩
  · rw [dropRightWhile, ← List.reverse_append, List.takeWhile_append_dropWhile,
      List.reverse_reverse]
  · exact fun c hc => List.mem_takeWhile_imp (List.mem_reverse.mp hc)

/-- A text is what is left of it with the blanks around that. -/
theorem exists_blanks_trim (t : Text) : ∃ u v, t = u ++ (trim t ++ v) ∧
    (∀ c ∈ u, isBlank c = true) ∧ ∀ c ∈ v, isBlank c = true := by
  obtain ⟨v, hend, hv⟩ := exists_dropRightWhile_append isBlank (skipBlanks t)
  refine ⟨t.takeWhile isBlank, v, ?_, fun c hc => List.mem_takeWhile_imp hc, hv⟩
  rw [trim, ← hend]
  exact List.takeWhile_append_dropWhile.symm

theorem mem_of_mem_trim {c : Char} {t : Text} (h : c ∈ trim t) : c ∈ t := by
  obtain ⟨u, v, ht, -, -⟩ := exists_blanks_trim t
  rw [ht]
  simp [h]

theorem isBlank_head?_skipBlanks (t : Text) : ∀ c ∈ (skipBlanks t).head?, isBlank c = false := by
  intro c hc
  have hd := List.head?_dropWhile_not isBlank t
  rw [show (t.dropWhile isBlank).head? = some c from hc] at hd
  exact hd

theorem isTrimmed_skipBlanks {t s : Text} (ht : IsTrimmed t) (hs : s <:+ t) :
    IsTrimmed (skipBlanks s) := by
  refine ⟨isBlank_head?_skipBlanks s, fun c hc => ht.2 c ?_⟩
  obtain ⟨u, hu⟩ := (List.dropWhile_suffix isBlank).trans hs
  have hsplit : t = u ++ skipBlanks s := hu.symm
  rw [hsplit, List.getLast?_append, Option.mem_def.mp hc]
  rfl

theorem isTrimmed_trim (t : Text) : IsTrimmed (trim t) := by
  refine ⟨fun c hc => isBlank_head?_skipBlanks t c ?_, fun c hc => ?_⟩
  · obtain ⟨v, hend, -⟩ := exists_dropRightWhile_append isBlank (skipBlanks t)
    rw [hend, ← trim, List.head?_append, Option.mem_def.mp hc]
    rfl
  · rw [trim, dropRightWhile, List.getLast?_reverse] at hc
    exact isBlank_head?_skipBlanks _ c hc

@[simp] theorem trim_trim (t : Text) : trim (trim t) = trim t := by
  obtain ⟨u, v, ht, hu, hv⟩ := exists_blanks_trim t
  calc trim (trim t) = trim (u ++ (trim t ++ v)) := by
        rw [trim_blanks_append hu, trim_append_blanks hv]
    _ = trim t := by rw [← ht]

theorem isBlank_of_mem_spaces {n : ℕ} : ∀ c ∈ List.replicate n ' ', isBlank c = true := by
  intro c hc
  rw [List.eq_of_mem_replicate hc]
  decide

theorem dropRightWhile_dropRightWhile (t : Text) :
    dropRightWhile isBlank (dropRightWhile isBlank t) = dropRightWhile isBlank t := by
  obtain ⟨v, ht, hv⟩ := exists_dropRightWhile_append isBlank t
  conv_rhs => rw [ht, dropRightWhile_append_blanks hv]

theorem trim_dropRightWhile (t : Text) : trim (dropRightWhile isBlank t) = trim t := by
  obtain ⟨v, ht, hv⟩ := exists_dropRightWhile_append isBlank t
  conv_rhs => rw [ht, trim_append_blanks hv]

/-! ### Cutting -/

theorem splitOn_eq_self {sep : Char} {t : Text} (h : sep ∉ t) : splitOn sep t = [t] := by
  induction t with
  | nil => rfl
  | cons c t ih =>
    obtain ⟨hc, ht⟩ := List.ne_and_not_mem_of_not_mem_cons h
    rw [splitOn, if_neg (Ne.symm hc), ih ht]

theorem splitOn_append {sep : Char} {t : Text} (h : sep ∉ t) (r : Text) :
    splitOn sep (t ++ sep :: r) = t :: splitOn sep r := by
  induction t with
  | nil => simp [splitOn]
  | cons c t ih =>
    obtain ⟨hc, ht⟩ := List.ne_and_not_mem_of_not_mem_cons h
    rw [List.cons_append, splitOn, if_neg (Ne.symm hc), ih ht]

/-- Texts that are joined by a separator, with more after it, are cut there. -/
theorem splitOn_append_join {sep : Char} {more : Text} (hm : sep ∉ more) {start t : Text}
    {ts : List Text} (hs : sep ∉ start) (h : ∀ u ∈ t :: ts, sep ∉ u) :
    splitOn sep (start ++ join (sep :: more) (t :: ts)) =
      (start ++ t) :: ts.map (more ++ ·) := by
  have ht : sep ∉ start ++ t := by
    simpa [hs] using h t List.mem_cons_self
  induction ts generalizing start t with
  | nil => exact splitOn_eq_self ht
  | cons u ts ih =>
    have hu : ∀ v ∈ u :: ts, sep ∉ v := fun v hv => h v (List.mem_cons_of_mem _ hv)
    have htail := ih hm hu (by simpa [hm] using hu u List.mem_cons_self)
    have hj : start ++ join (sep :: more) (t :: u :: ts) =
        (start ++ t) ++ sep :: (more ++ join (sep :: more) (u :: ts)) := by
      simp [join]
    rw [hj, splitOn_append ht, htail, List.map_cons]

theorem splitOn_join {sep : Char} {more : Text} (hm : sep ∉ more) {t : Text} {ts : List Text}
    (h : ∀ u ∈ t :: ts, sep ∉ u) :
    splitOn sep (join (sep :: more) (t :: ts)) = t :: ts.map (more ++ ·) :=
  splitOn_append_join hm List.not_mem_nil h

end HeaderBindings.Text
