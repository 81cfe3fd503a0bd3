import HeaderBindings.Proofs.Text.Lines
import HeaderBindings.Xml.Node

/-!
# Values of XML documents

A document holds the characters of its format only: three layout characters, and from the space on
all but U+FFFE and U+FFFF. Cleaning removes the other control characters, so it makes a string one
that a document may hold unless one of those two or a surrogate is in it.
-/
namespace HeaderBindings.Xml

/-! ### Characters -/

/-- The characters of a document. -/
def IsChar (c : Char) : Prop :=
  c = '\t' ∨ c = '\n' ∨ c = '\r' ∨ (0x20 ≤ c.toNat ∧ c.toNat ≤ 0xD7FF) ∨
    (0xE000 ≤ c.toNat ∧ c.toNat ≤ 0xFFFD) ∨ (0x10000 ≤ c.toNat ∧ c.toNat ≤ 0x10FFFF)

/-- The two characters behind U+FFFD, which stay when a text is cleaned. -/
def IsNonCharacter (c : Char) : Prop := c = '\uFFFE' ∨ c = '\uFFFF'

/-- A text that a document may hold. -/
def IsContent (t : Text) : Prop := ∀ c ∈ t, IsChar c

/-- A text that a document may hold once it is cleaned. -/
def IsCleanable (t : Text) : Prop := ∀ c ∈ t, ¬IsNonCharacter c

theorem isLegalChar_iff {c : Char} : isLegalChar c = true ↔ IsChar c := by
  have hvalid : c.toNat < 0xD800 ∨ 0xDFFF < c.toNat ∧ c.toNat < 0x110000 := c.valid
  have hcodes : '\t'.toNat = 9 ∧ '\n'.toNat = 10 ∧ '\r'.toNat = 13 ∧ '\uFFFE'.toNat = 0xFFFE ∧
    '\uFFFF'.toNat = 0xFFFF := by decide
  simp only [isLegalChar, isControl, IsChar, Bool.and_eq_true, Bool.not_eq_true',
    Bool.and_eq_false_iff, decide_eq_true_eq, decide_eq_false_iff_not, ← Char.toNat_inj, ne_eq,
    not_not, hcodes]
  omega

/-- What cleaning keeps of the characters that a document may not hold. -/
theorem isChar_iff {c : Char} : IsChar c ↔ isControl c = false ∧ ¬IsNonCharacter c := by
  rw [← isLegalChar_iff, isLegalChar, IsNonCharacter, Bool.and_eq_true, Bool.and_eq_true, not_or,
    and_assoc, Bool.not_eq_true', decide_eq_true_eq, decide_eq_true_eq]

theorem IsContent.isCleanable {t : Text} (h : IsContent t) : IsCleanable t :=
  fun c hc => (isChar_iff.mp (h c hc)).2

/-! ### Texts -/

/-- The code points of the characters that a document may not hold. -/
def illegalPoints : List ℕ := List.range 32 ++ [0xFFFE, 0xFFFF]

theorem mem_illegalPoints {c : Char} (h : ¬IsChar c) : c.toNat ∈ illegalPoints := by
  rw [isChar_iff, not_and_or, not_not, Bool.not_eq_false] at h
  rcases h with h | rfl | rfl
  · simp only [isControl, Bool.and_eq_true, decide_eq_true_eq] at h
    exact List.mem_append_left _ (List.mem_range.mpr h.1.1.1)
  · decide
  · decide

/-- What a text may not hold is no word character. -/
theorem isContent_of_isWordText {t : Text} (h : Text.IsWordText t) : IsContent t := by
  intro c hc
  by_contra hillegal
  have hpoints : ∀ n ∈ illegalPoints, Text.isWord (Char.ofNat n) = false := by decide +kernel
  have hword := hpoints _ (mem_illegalPoints hillegal)
  rw [Char.ofNat_toNat, h c hc] at hword
  cases hword

instance : DecidablePred IsChar := fun _ => decidable_of_iff _ isLegalChar_iff

instance : DecidablePred IsNonCharacter := fun _ => inferInstanceAs (Decidable (_ ∨ _))

instance : DecidablePred IsContent := fun t => List.decidableBAll IsChar t

instance : DecidablePred IsCleanable := fun t => List.decidableBAll (¬IsNonCharacter ·) t

theorem isContent_append {t u : Text} : IsContent (t ++ u) ↔ IsContent t ∧ IsContent u :=
  List.forall_mem_append

theorem isContent_cons {c : Char} {t : Text} : IsContent (c :: t) ↔ IsChar c ∧ IsContent t :=
  List.forall_mem_cons

theorem isCleanable_append {t u : Text} :
    IsCleanable (t ++ u) ↔ IsCleanable t ∧ IsCleanable u :=
  List.forall_mem_append

theorem isCleanable_cons {c : Char} {t : Text} :
    IsCleanable (c :: t) ↔ ¬IsNonCharacter c ∧ IsCleanable t :=
  List.forall_mem_cons

theorem isCleanable_join {sep : Text} {ts : List Text} (hs : IsCleanable sep)
    (h : ∀ t ∈ ts, IsCleanable t) : IsCleanable (Text.join sep ts) :=
  fun c hc hnon =>
    Text.not_mem_join (fun hm => hs c hm hnon) (fun t ht hm => h t ht c hm hnon) hc

/-! ### Strings that may be no texts -/

/-- A string that a document may hold: no surrogate is one of its characters. -/
def IsWideContent (w : WideText) : Prop := ∀ p ∈ w, ∃ c, p = .char c ∧ IsChar c

/-- A string that a document may hold once it is cleaned. -/
def IsWideCleanable (w : WideText) : Prop := ∀ p ∈ w, ∃ c, p = .char c ∧ ¬IsNonCharacter c

theorem isLegal_iff {w : WideText} : isLegal w = true ↔ IsWideContent w := by
  rw [isLegal, List.all_eq_true]
  refine forall₂_congr fun p _ => ?_
  cases p with
  | char c => simp [isLegalPoint, isLegalChar_iff]
  | surrogate n => simp [isLegalPoint]

theorem isWideContent_clean {w : WideText} : IsWideContent (clean w) ↔ IsWideCleanable w := by
  constructor
  · intro h p hp
    by_cases hkept : isKept p = true
    · obtain ⟨c, rfl, hc⟩ := h p (List.mem_filter.mpr ⟨hp, hkept⟩)
      exact ⟨c, rfl, (isChar_iff.mp hc).2⟩
    · cases p with
      | char c =>
        -- the two are no control characters
        refine ⟨c, rfl, fun hnon => hkept ?_⟩
        rcases hnon with rfl | rfl <;> rfl
      | surrogate n => exact absurd rfl hkept
  · intro h p hp
    obtain ⟨hp, hkept⟩ := List.mem_filter.mp hp
    obtain ⟨c, rfl, hc⟩ := h p hp
    exact ⟨c, rfl, isChar_iff.mpr ⟨(Bool.not_eq_true' _).mp hkept, hc⟩⟩

@[simp] theorem isWideContent_ofText {t : Text} : IsWideContent (.ofText t) ↔ IsContent t := by
  simp [IsWideContent, IsContent, WideText.ofText]

@[simp] theorem isWideCleanable_ofText {t : Text} :
    IsWideCleanable (.ofText t) ↔ IsCleanable t := by
  simp [IsWideCleanable, IsCleanable, WideText.ofText]

instance : DecidablePred IsWideContent := fun _ => decidable_of_iff _ isLegal_iff

instance : DecidablePred IsWideCleanable := fun _ => decidable_of_iff _ isWideContent_clean

/-- Cleaning makes the string of a datum legal, however null and the truth values are spelled. -/
theorem isWideContent_ofDatum {d : Datum} :
    IsWideContent (ofDatum d) ↔ IsWideCleanable d.toWide := by
  cases d with
  | null => exact iff_of_true (by decide) (by decide)
  | bool b => cases b <;> exact iff_of_true (by decide) (by decide)
  | _ => exact isWideContent_clean

/-! ### Nodes -/

theorem Node.forall_mem_valuesAll {p : WideText → Prop} {ns : List Node} :
    (∀ v ∈ valuesAll ns, p v) ↔ ∀ n ∈ ns, ∀ v ∈ n.values, p v := by
  induction ns with
  | nil => simp [valuesAll]
  | cons n ns ih => rw [valuesAll, List.forall_mem_append, List.forall_mem_cons, ih]

end HeaderBindings.Xml
