import HeaderBindings.Proofs.Text.Lines

/-!
# Squeezed texts

In a squeezed text every run of blanks is one space, at the ends too. Collapsing a text is trimming
and squeezing it. What is read up to a blank, or past all blanks, is read of the squeezed text as it
is of the text, and the squeezed rest is left.
-/
namespace HeaderBindings.Text

def startsBlank (t : Text) : Bool := t.head?.any isBlank

/-- A text with one space for every run of blanks. The last blank of a run is the one that stays. -/
def squeeze : Text → Text
  | [] => []
  | c :: r =>
    if isBlank c then if startsBlank r then squeeze r else ' ' :: squeeze r
    else c :: squeeze r

theorem startsBlank_cons (c : Char) (r : Text) : startsBlank (c :: r) = isBlank c := rfl

theorem startsBlank_append_of_ne_nil {t : Text} (h : t ≠ []) (u : Text) :
    startsBlank (t ++ u) = startsBlank t := by
  cases t with
  | nil => exact absurd rfl h
  | cons c t => rfl

section Cases
variable {c : Char} {r : Text}

theorem squeeze_cons_of_not (hc : isBlank c = false) : squeeze (c :: r) = c :: squeeze r := by
  simp [squeeze, hc]

theorem squeeze_cons_of_inner (hc : isBlank c = true) (hr : startsBlank r = true) :
    squeeze (c :: r) = squeeze r := by
  simp [squeeze, hc, hr]

theorem squeeze_cons_of_last (hc : isBlank c = true) (hr : startsBlank r = false) :
    squeeze (c :: r) = ' ' :: squeeze r := by
  simp [squeeze, hc, hr]

end Cases

/-- Texts are gone through by characters that are no blanks, blanks before another, and last blanks
of a run. -/
theorem squeeze_induction {motive : Text → Prop} (nil : motive [])
    (other : ∀ c r, isBlank c = false → motive r → motive (c :: r))
    (inner : ∀ c r, isBlank c = true → startsBlank r = true → motive r → motive (c :: r))
    (last : ∀ c r, isBlank c = true → startsBlank r = false → motive r → motive (c :: r))
    (t : Text) : motive t := by
  induction t with
  | nil => exact nil
  | cons c r ih =>
    cases hc : isBlank c with
    | false => exact other c r hc ih
    | true =>
      cases hr : startsBlank r with
      | false => exact last c r hc hr ih
      | true => exact inner c r hc hr ih

theorem isBlank_space : isBlank ' ' = true := by decide

@[simp] theorem startsBlank_squeeze (t : Text) : startsBlank (squeeze t) = startsBlank t := by
  induction t using squeeze_induction with
  | nil => rfl
  | other c r hc _ => rw [squeeze_cons_of_not hc, startsBlank_cons, startsBlank_cons]
  | inner c r hc hr ih => rw [squeeze_cons_of_inner hc hr, ih, hr, startsBlank_cons, hc]
  | last c r hc hr _ =>
    rw [squeeze_cons_of_last hc hr, startsBlank_cons, startsBlank_cons, isBlank_space, hc]

@[simp] theorem squeeze_eq_nil_iff {t : Text} : squeeze t = [] ↔ t = [] := by
  induction t using squeeze_induction with
  | nil => exact Iff.rfl
  | other c r hc _ => simp [squeeze_cons_of_not hc]
  | inner c r hc hr ih =>
    have hne : r ≠ [] := by
      rintro rfl
      cases hr
    simp [squeeze_cons_of_inner hc hr, ih, hne]
  | last c r hc hr _ => simp [squeeze_cons_of_last hc hr]

/-! ### Texts without blanks -/

theorem squeeze_eq_self {t : Text} (h : ∀ c ∈ t, isBlank c = false) : squeeze t = t := by
  induction t with
  | nil => rfl
  | cons c t ih =>
    obtain ⟨hc, ht⟩ := List.forall_mem_cons.mp h
    rw [squeeze_cons_of_not hc, ih ht]

theorem isBlank_of_mem_squeeze {t : Text} (h : ∀ c ∈ squeeze t, isBlank c = false) :
    ∀ c ∈ t, isBlank c = false := by
  induction t using squeeze_induction with
  | nil => exact h
  | other c r hc ih =>
    rw [squeeze_cons_of_not hc, List.forall_mem_cons] at h
    exact List.forall_mem_cons.mpr ⟨hc, ih h.2⟩
  | inner c r hc hr ih =>
    rw [squeeze_cons_of_inner hc hr] at h
    obtain ⟨d, s, rfl⟩ : ∃ d s, r = d :: s := by
      cases r with
      | nil => cases hr
      | cons d s => exact ⟨d, s, rfl⟩
    have hd : isBlank d = true := hr
    rw [ih h d List.mem_cons_self] at hd
    cases hd
  | last c r hc hr _ =>
    rw [squeeze_cons_of_last hc hr, List.forall_mem_cons] at h
    exact absurd isBlank_space (by simp [h.1])

/-- No other text is squeezed to a text without blanks. -/
theorem squeeze_eq_iff {t w : Text} (hw : ∀ c ∈ w, isBlank c = false) : squeeze t = w ↔ t = w := by
  constructor
  · rintro rfl
    exact (squeeze_eq_self (isBlank_of_mem_squeeze hw)).symm
  · rintro rfl
    exact squeeze_eq_self hw

/-! ### Concatenations -/

theorem squeeze_append_of_not {v : Text} (hv : startsBlank v = false) (t : Text) :
    squeeze (t ++ v) = squeeze t ++ squeeze v := by
  induction t using squeeze_induction with
  | nil => rfl
  | other c r hc ih =>
    rw [List.cons_append, squeeze_cons_of_not hc, squeeze_cons_of_not hc, ih, List.cons_append]
  | inner c r hc hr ih =>
    have hne : r ≠ [] := by
      rintro rfl
      cases hr
    have hrv : startsBlank (r ++ v) = true := (startsBlank_append_of_ne_nil hne v).trans hr
    rw [List.cons_append, squeeze_cons_of_inner hc hrv, squeeze_cons_of_inner hc hr, ih]
  | last c r hc hr ih =>
    have hrv : startsBlank (r ++ v) = false := by
      cases r with
      | nil => exact hv
      | cons d s => exact hr
    rw [List.cons_append, squeeze_cons_of_last hc hrv, squeeze_cons_of_last hc hr, ih,
      List.cons_append]

theorem squeeze_concat {e : Char} (he : isBlank e = false) (t : Text) :
    squeeze (t ++ [e]) = squeeze t ++ [e] := by
  rw [squeeze_append_of_not (show startsBlank [e] = false from he), squeeze_cons_of_not he]
  rfl

theorem squeeze_append_of_last {t : Text} (ht : ∀ c ∈ t.getLast?, isBlank c = false) (v : Text) :
    squeeze (t ++ v) = squeeze t ++ squeeze v := by
  rcases List.eq_nil_or_concat' t with rfl | ⟨s, e, rfl⟩
  · rfl
  · have he : isBlank e = false := ht e (by simp)
    rw [squeeze_concat he, List.append_assoc, List.append_assoc,
      squeeze_append_of_not (show startsBlank ([e] ++ v) = false from he)]
    exact congrArg (squeeze s ++ ·) (squeeze_cons_of_not he)

/-- A run of blanks before something else is one space. -/
theorem squeeze_blanks_append {u v : Text} (hne : u ≠ []) (hu : ∀ c ∈ u, isBlank c = true)
    (hv : startsBlank v = false) : squeeze (u ++ v) = ' ' :: squeeze v := by
  induction u with
  | nil => exact absurd rfl hne
  | cons c u ih =>
    obtain ⟨hc, hu⟩ := List.forall_mem_cons.mp hu
    cases u with
    | nil => exact squeeze_cons_of_last hc hv
    | cons d u =>
      have hd : startsBlank (d :: u ++ v) = true := hu d List.mem_cons_self
      rw [List.cons_append, squeeze_cons_of_inner hc hd, ih (List.cons_ne_nil _ _) hu]

/-! ### Ends -/

theorem skipBlanks_squeeze (t : Text) : skipBlanks (squeeze t) = squeeze (skipBlanks t) := by
  have hskip {c : Char} (hc : isBlank c = true) (r : Text) : skipBlanks (c :: r) = skipBlanks r :=
    skipBlanks_blanks_append (u := [c]) (by simpa using hc) r
  induction t using squeeze_induction with
  | nil => rfl
  | other c r hc _ => rw [squeeze_cons_of_not hc, skipBlanks_cons_of_not hc,
      skipBlanks_cons_of_not hc, squeeze_cons_of_not hc]
  | inner c r hc hr ih => rw [squeeze_cons_of_inner hc hr, hskip hc, ih]
  | last c r hc hr ih => rw [squeeze_cons_of_last hc hr, hskip isBlank_space, hskip hc, ih]

theorem isBlank_getLast?_dropRightWhile (t : Text) :
    ∀ c ∈ (dropRightWhile isBlank t).getLast?, isBlank c = false := by
  intro c hc
  rw [dropRightWhile, List.getLast?_reverse] at hc
  exact isBlank_head?_skipBlanks _ c hc

theorem isBlank_getLast?_squeeze {t : Text} (ht : ∀ c ∈ t.getLast?, isBlank c = false) :
    ∀ c ∈ (squeeze t).getLast?, isBlank c = false := by
  rcases List.eq_nil_or_concat' t with rfl | ⟨s, e, rfl⟩
  · exact ht
  · have he : isBlank e = false := ht e (by simp)
    simpa [squeeze_concat he] using he

theorem isBlank_squeeze_of_forall {v : Text} (hv : ∀ c ∈ v, isBlank c = true) :
    ∀ c ∈ squeeze v, isBlank c = true := by
  by_cases hne : v = []
  · subst hne
    exact hv
  · have hone := squeeze_blanks_append hne hv (v := []) rfl
    rw [List.append_nil] at hone
    rw [hone]
    exact List.forall_mem_singleton.mpr isBlank_space

theorem dropRightWhile_squeeze (t : Text) :
    dropRightWhile isBlank (squeeze t) = squeeze (dropRightWhile isBlank t) := by
  obtain ⟨v, ht, hv⟩ := exists_dropRightWhile_append isBlank t
  have hlast := isBlank_getLast?_dropRightWhile t
  conv_lhs => rw [ht, squeeze_append_of_last hlast]
  rw [dropRightWhile_append_blanks (isBlank_squeeze_of_forall hv),
    dropRightWhile_eq_self (isBlank_getLast?_squeeze hlast)]

theorem trim_squeeze (t : Text) : trim (squeeze t) = squeeze (trim t) := by
  rw [trim, skipBlanks_squeeze, dropRightWhile_squeeze, trim]

/-! ### Collapsing -/

theorem trim_eq_nil_iff {t : Text} : trim t = [] ↔ ∀ c ∈ t, isBlank c = true := by
  constructor
  · intro h
    obtain ⟨u, v, ht, hu, hv⟩ := exists_blanks_trim t
    rw [ht, h]
    exact List.forall_mem_append.mpr ⟨hu, hv⟩
  · intro h
    have htrim := trim_blanks_append h []
    rwa [List.append_nil] at htrim

theorem startsBlank_trim (t : Text) : startsBlank (trim t) = false := by
  cases ht : trim t with
  | nil => rfl
  | cons c r => exact (isTrimmed_trim t).1 c (by rw [ht]; rfl)

/-- Blanks before the end of a text that is not blank are one space. -/
theorem squeeze_dropRightWhile {t : Text} (ht : ∀ c ∈ t.head?, isBlank c = true) :
    squeeze (dropRightWhile isBlank t) = if trim t = [] then [] else ' ' :: squeeze (trim t) := by
  obtain ⟨u, v, hsplit, hu, hv⟩ := exists_blanks_trim t
  have hdrop : dropRightWhile isBlank t = dropRightWhile isBlank (u ++ trim t) := by
    conv_lhs => rw [hsplit, ← List.append_assoc, dropRightWhile_append_blanks hv]
  rw [hdrop]
  split_ifs with hnil
  · rw [hnil, List.append_nil, ← List.nil_append u, dropRightWhile_append_blanks hu]
    rfl
  · have hne : u ≠ [] := by
      rintro rfl
      obtain ⟨c, r, hc⟩ := List.exists_cons_of_ne_nil hnil
      have hblank : isBlank c = true := ht c (by rw [hsplit, hc]; rfl)
      rw [(isTrimmed_trim t).1 c (by rw [hc]; rfl)] at hblank
      cases hblank
    have hlast : ∀ c ∈ (u ++ trim t).getLast?, isBlank c = false := by
      rw [List.getLast?_append_of_ne_nil u hnil]
      exact (isTrimmed_trim t).2
    rw [dropRightWhile_eq_self hlast, squeeze_blanks_append hne hu (startsBlank_trim t)]

theorem skipBlanks_skipBlanks (t : Text) : skipBlanks (skipBlanks t) = skipBlanks t := by
  cases hs : skipBlanks t with
  | nil => rfl
  | cons c r => exact skipBlanks_cons_of_not (isBlank_head?_skipBlanks t c (by rw [hs]; rfl)) r

theorem words_skipBlanks (t : Text) : words (skipBlanks t) = words t := by
  rw [words.eq_def, words.eq_def t, skipBlanks_skipBlanks]

theorem words_eq_nil_iff {t : Text} : words t = [] ↔ trim t = [] := by
  rw [trim_eq_nil_iff]
  have hskip : skipBlanks t = [] ↔ ∀ c ∈ t, isBlank c = true := List.dropWhile_eq_nil_iff
  rw [← hskip]
  unfold words
  split
  · next h => simp [h]
  · next c r h => simp [h]

/-- A text that begins with no blank begins with a word. -/
theorem exists_word {t : Text} (hne : t ≠ []) (ht : startsBlank t = false) :
    ∃ w r, t = w ++ r ∧ IsPiece w ∧ ∀ c ∈ r.head?, isBlank c = true := by
  refine ⟨t.takeWhile (!isBlank ·), t.dropWhile (!isBlank ·),
    List.takeWhile_append_dropWhile.symm, ⟨?_, fun c hc => ?_⟩, fun c hc => ?_⟩
  · obtain ⟨c, r, rfl⟩ := List.exists_cons_of_ne_nil hne
    have hc : isBlank c = false := ht
    simp [hc]
  · simpa using List.mem_takeWhile_imp hc
  · have hhead := List.head?_dropWhile_not (!isBlank ·) t
    rw [Option.mem_def.mp hc] at hhead
    simpa using hhead

section Word
variable {w t : Text} (hw : IsPiece w) (ht : ∀ c ∈ t.head?, isBlank c = true)
include hw ht

theorem collapse_word_append :
    collapse (w ++ t) = w ++ if trim t = [] then [] else ' ' :: collapse t := by
  rw [collapse, words_append hw ht]
  split_ifs with hnil
  · rw [words_eq_nil_iff.mpr hnil, List.append_nil]
    rfl
  · obtain ⟨u, us, hu⟩ := List.exists_cons_of_ne_nil (mt words_eq_nil_iff.mp hnil)
    rw [collapse, hu]
    simp [join]

theorem squeeze_trim_word_append :
    squeeze (trim (w ++ t)) = w ++ if trim t = [] then [] else ' ' :: squeeze (trim t) := by
  have htrimmed : IsTrimmed w := isTrimmed_of_forall hw.2
  rw [trim_append htrimmed hw.1, squeeze_append_of_last htrimmed.2, squeeze_eq_self hw.2,
    squeeze_dropRightWhile ht]

end Word

/-- Collapsing is trimming and squeezing. -/
theorem collapse_eq (t : Text) : collapse t = squeeze (trim t) := by
  induction hn : t.length using Nat.strongRecOn generalizing t with
  | ind n ih =>
    have hstart : startsBlank (skipBlanks t) = false := by
      cases hs : skipBlanks t with
      | nil => rfl
      | cons c r => exact isBlank_head?_skipBlanks t c (by rw [hs]; rfl)
    have hcollapse : collapse t = collapse (skipBlanks t) := by
      rw [collapse, collapse, words_skipBlanks]
    have htrim : trim t = trim (skipBlanks t) := by
      rw [trim, trim, skipBlanks_skipBlanks]
    by_cases hne : skipBlanks t = []
    · rw [hcollapse, htrim, hne]
      exact congrArg (join [' ']) words_nil
    · obtain ⟨w, r, hsplit, hw, hr⟩ := exists_word hne hstart
      have hlen : r.length < n := by
        have hle := length_skipBlanks_le t
        have hpos := List.length_pos_of_ne_nil hw.1
        rw [hsplit, List.length_append] at hle
        omega
      rw [hcollapse, htrim, hsplit, collapse_word_append hw hr, squeeze_trim_word_append hw hr,
        ih r.length hlen r rfl]

/-! ### Reading -/

theorem exists_of_startsBlank {t : Text} (h : startsBlank t = true) :
    ∃ c r, t = c :: r ∧ isBlank c = true := by
  cases t with
  | nil => cases h
  | cons c r => exact ⟨c, r, rfl, h⟩

/-- Where a text begins with a blank, so does the squeezed text, if with another one. -/
theorem exists_squeeze_cons {c : Char} (hc : isBlank c = true) (r : Text) :
    ∃ d s, squeeze (c :: r) = d :: s ∧ isBlank d = true :=
  exists_of_startsBlank ((startsBlank_squeeze (c :: r)).trans hc)

theorem count_squeeze {c : Char} (hc : isBlank c = false) (t : Text) :
    (squeeze t).count c = t.count c := by
  have hne {d : Char} (hd : isBlank d = true) : d ≠ c := (ne_of_isBlank hc hd).symm
  induction t using squeeze_induction with
  | nil => rfl
  | other d r hd ih => rw [squeeze_cons_of_not hd, List.count_cons, List.count_cons, ih]
  | inner d r hd hr ih => rw [squeeze_cons_of_inner hd hr, List.count_cons_of_ne (hne hd), ih]
  | last d r hd hr ih => rw [squeeze_cons_of_last hd hr, List.count_cons_of_ne (hne isBlank_space),
      List.count_cons_of_ne (hne hd), ih]

theorem head?_squeeze_eq_iff {c : Char} (hc : isBlank c = false) {t : Text} :
    (squeeze t).head? = some c ↔ t.head? = some c := by
  cases t with
  | nil => exact Iff.rfl
  | cons d r =>
    cases hd : isBlank d with
    | false => rw [squeeze_cons_of_not hd, List.head?_cons, List.head?_cons]
    | true =>
      obtain ⟨e, s, he, hblank⟩ := exists_squeeze_cons hd r
      simp [he, (ne_of_isBlank hc hd).symm, (ne_of_isBlank hc hblank).symm]

theorem dropPrefix?_squeeze {w : Text} (hw : ∀ c ∈ w, isBlank c = false) (t : Text) :
    dropPrefix? w (squeeze t) = (dropPrefix? w t).map squeeze := by
  induction w generalizing t with
  | nil => rfl
  | cons c w ih =>
    obtain ⟨hc, hw⟩ := List.forall_mem_cons.mp hw
    cases t with
    | nil => rfl
    | cons d r =>
      cases hd : isBlank d with
      | false =>
        rw [squeeze_cons_of_not hd, dropPrefix?, dropPrefix?, ih hw]
        split_ifs <;> rfl
      | true =>
        obtain ⟨e, s, he, hblank⟩ := exists_squeeze_cons hd r
        simp [he, dropPrefix?, ne_of_isBlank hc hd, ne_of_isBlank hc hblank]

theorem span_squeeze {p : Char → Bool} (hp : ∀ c, isBlank c = true → p c = false) (t : Text) :
    (squeeze t).takeWhile p = t.takeWhile p ∧
      (squeeze t).dropWhile p = squeeze (t.dropWhile p) := by
  induction t using squeeze_induction with
  | nil => exact ⟨rfl, rfl⟩
  | other c r hc ih =>
    rw [squeeze_cons_of_not hc]
    cases hpc : p c with
    | false => simp [hpc, squeeze_cons_of_not hc]
    | true => simp [hpc, ih]
  | inner c r hc hr ih =>
    obtain ⟨d, s, rfl, hd⟩ := exists_of_startsBlank hr
    rw [squeeze_cons_of_inner hc hr]
    simpa [hp c hc, hp d hd, squeeze_cons_of_inner hc hr] using ih
  | last c r hc hr ih =>
    simp [squeeze_cons_of_last hc hr, hp c hc, hp ' ' isBlank_space]

theorem atWord_squeeze (t : Text) : atWord (squeeze t) = atWord t := by
  cases t with
  | nil => rfl
  | cons c r =>
    cases hc : isBlank c with
    | false =>
      rw [squeeze_cons_of_not hc]
      rfl
    | true =>
      obtain ⟨d, s, hd, hblank⟩ := exists_squeeze_cons hc r
      rw [hd, atWord, atWord, isWord_of_isBlank hc, isWord_of_isBlank hblank]

/-- Names are read as they are, and a squeezed rest is left. -/
theorem readName?_squeeze (t : Text) :
    readName? (squeeze t) = (readName? t).map fun p => (p.1, squeeze p.2) := by
  have hstart {c : Char} (hc : isBlank c = true) : isNameStart c = false := by
    by_contra h
    have hword := isWord_of_isNameStart (by simpa using h)
    rw [isWord_of_isBlank hc] at hword
    cases hword
  cases t with
  | nil => rfl
  | cons c r =>
    cases hc : isBlank c with
    | false =>
      obtain ⟨htake, hdrop⟩ := span_squeeze (fun _ => isWord_of_isBlank) r
      rw [squeeze_cons_of_not hc, readName?, readName?, htake, hdrop]
      split_ifs <;> rfl
    | true =>
      obtain ⟨d, s, hd, hblank⟩ := exists_squeeze_cons hc r
      simp [hd, readName?, hstart hc, hstart hblank]

end HeaderBindings.Text
