import HeaderBindings.Text.Identifier
import HeaderBindings.Proofs.Text.Lines

/-!
# Forms

A form is a list of fixed texts with a symbol between any two of them. A text is read by a form from
its start: where a symbol ends is decided by its characters alone, so a form that is filled with
symbols gives these symbols back as long as its fixed texts end them.
-/
namespace HeaderBindings.Call

open Text

/-! ### Symbols -/

/-- A text of characters that identifiers have. -/
structure IsSymbol (t : Text) : Prop where
  ne_nil : t ≠ []
  forall_mem : ∀ c ∈ t, mayBeIdentifier c = true

theorem IsSymbol.not_mem {t : Text} (h : IsSymbol t) {c : Char} (hc : mayBeIdentifier c = false) :
    c ∉ t := by
  intro hm
  rw [h.forall_mem c hm] at hc
  cases hc

theorem IsSymbol.append {t u : Text} (ht : IsSymbol t) (hu : IsSymbol u) : IsSymbol (t ++ u) where
  ne_nil := List.append_ne_nil_of_left_ne_nil ht.ne_nil u
  forall_mem := List.forall_mem_append.mpr ⟨ht.forall_mem, hu.forall_mem⟩

theorem mayBeIdentifier_of_isWord {c : Char} (h : isWord c = true) : mayBeIdentifier c = true := by
  unfold isWord at h
  unfold mayBeIdentifier
  split_ifs at h with hc
  · simp [h]
  · simp [not_lt.mp hc]

theorem IsSymbol.of_isName {t : Text} (h : isName t = true) : IsSymbol t where
  ne_nil := by
    rintro rfl
    cases h
  forall_mem c hc := mayBeIdentifier_of_isWord (IsWordText.of_isName h c hc)

theorem mayBeIdentifier_of_continues {c : Char} (h : continuesIdentifier c = true) :
    mayBeIdentifier c = true := by
  unfold continuesIdentifier startsIdentifier at h
  unfold mayBeIdentifier Char.isAlphanum
  by_cases hc : c.toNat < 128
  · have hascii : (c.isAlpha = true ∨ c = '_') ∨ c.isDigit = true := by
      simpa [hc, Nat.not_le.mpr hc] using h
    rcases hascii with (h | h) | h <;> simp [h]
  · simp [Nat.not_lt.mp hc]

theorem IsSymbol.of_isIdentifier {t : Text} (h : isIdentifier t = true) : IsSymbol t := by
  cases t with
  | nil => cases h
  | cons c r =>
    obtain ⟨hc, hr⟩ := Bool.and_eq_true_iff.mp h
    have hfirst : continuesIdentifier c = true := by simp [continuesIdentifier, hc]
    have hall : ∀ d ∈ c :: r, continuesIdentifier d = true :=
      List.forall_mem_cons.mpr ⟨hfirst, List.all_eq_true.mp hr⟩
    exact ⟨List.cons_ne_nil c r, fun d hd => mayBeIdentifier_of_continues (hall d hd)⟩

/-- The symbol at the start of a text, and what follows it. -/
def symbol? (t : Text) : Option (Text × Text) :=
  match t.takeWhile mayBeIdentifier with
  | [] => none
  | c :: w => some (c :: w, t.dropWhile mayBeIdentifier)

/-- Whether no symbol goes on with this text. -/
def endsSymbol (t : Text) : Bool := !t.head?.any mayBeIdentifier

theorem symbol?_append {w : Text} (hw : IsSymbol w) {r : Text} (hr : endsSymbol r = true) :
    symbol? (w ++ r) = some (w, r) := by
  have hrest : r.takeWhile mayBeIdentifier = [] ∧ r.dropWhile mayBeIdentifier = r := by
    cases r with
    | nil => exact ⟨rfl, rfl⟩
    | cons c r => simpa [endsSymbol] using hr
  obtain ⟨c, w, rfl⟩ := List.exists_cons_of_ne_nil hw.ne_nil
  rw [symbol?, List.takeWhile_append_of_pos hw.forall_mem,
    List.dropWhile_append_of_pos hw.forall_mem, hrest.1, hrest.2, List.append_nil]

/-! ### Forms -/

/-- Fixed texts with symbols between them. -/
def fill : List Text → List Text → Text
  | p :: ps, w :: ws => p ++ (w ++ fill ps ws)
  | ps, _ => ps.flatten

/-- The symbols between fixed texts, and what follows the last of these. -/
def form? : List Text → Text → Option (List Text × Text)
  | [], t => some ([], t)
  | [p], t => (dropPrefix? p t).map fun r => ([], r)
  | p :: ps, t => do
    let r ← dropPrefix? p t
    let (w, r) ← symbol? r
    let (ws, r) ← form? ps r
    some (w :: ws, r)

/-- The symbols between fixed texts that are all of a text. -/
def whole? (ps : List Text) (t : Text) : Option (List Text) :=
  match form? ps t with
  | some (ws, []) => some ws
  | _ => none

theorem form?_fill_append {p : Text} {ps : List Text}
    (hps : ∀ q ∈ ps, q ≠ [] ∧ endsSymbol q = true) {ws : List Text} (hws : ∀ w ∈ ws, IsSymbol w)
    (hlen : ws.length = ps.length) (r : Text) :
    form? (p :: ps) (fill (p :: ps) ws ++ r) = some (ws, r) := by
  induction ps generalizing p ws with
  | nil =>
    obtain rfl := List.length_eq_zero_iff.mp hlen
    simp [fill, form?]
  | cons q ps ih =>
    obtain ⟨w, ws, rfl⟩ := List.exists_cons_of_length_eq_add_one hlen
    obtain ⟨⟨hne, hq⟩, hps⟩ := List.forall_mem_cons.mp hps
    obtain ⟨hw, hws⟩ := List.forall_mem_cons.mp hws
    have htail := ih hps hws (Nat.succ.inj hlen) (p := q)
    have hends : endsSymbol (fill (q :: ps) ws ++ r) = true := by
      obtain ⟨c, q, rfl⟩ := List.exists_cons_of_ne_nil hne
      cases ws <;> exact hq
    rw [fill, List.append_assoc, List.append_assoc]
    simp only [form?, dropPrefix?_append, Option.bind_eq_bind, Option.bind_some,
      symbol?_append hw hends, htail]

/-- A form may begin with a symbol. -/
theorem form?_symbol {w : Text} (hw : IsSymbol w) {r : Text} (hr : endsSymbol r = true) {p : Text}
    {ps : List Text} :
    form? ([] :: p :: ps) (w ++ r) = (form? (p :: ps) r).map fun q => (w :: q.1, q.2) := by
  have hempty : dropPrefix? [] (w ++ r) = some (w ++ r) := dropPrefix?_append [] (w ++ r)
  simp only [form?, hempty, Option.bind_eq_bind, Option.bind_some, symbol?_append hw hr]
  cases form? (p :: ps) r <;> rfl

theorem whole?_fill {p : Text} {ps : List Text} (hps : ∀ q ∈ ps, q ≠ [] ∧ endsSymbol q = true)
    {ws : List Text} (hws : ∀ w ∈ ws, IsSymbol w) (hlen : ws.length = ps.length) :
    whole? (p :: ps) (fill (p :: ps) ws) = some ws := by
  have h := form?_fill_append (p := p) hps hws hlen []
  rw [List.append_nil] at h
  rw [whole?, h]

/-- What stands in a filled form stands in its fixed texts or may stand in a symbol. -/
theorem not_mem_fill {c : Char} (hc : mayBeIdentifier c = false) {ps ws : List Text}
    (hp : ∀ p ∈ ps, c ∉ p) (hw : ∀ w ∈ ws, IsSymbol w) : c ∉ fill ps ws := by
  induction ps generalizing ws with
  | nil => cases ws <;> exact List.not_mem_nil
  | cons p ps ih =>
    obtain ⟨hfirst, hrest⟩ := List.forall_mem_cons.mp hp
    cases ws with
    | nil => simpa [fill] using ⟨hfirst, hrest⟩
    | cons w ws =>
      obtain ⟨hword, hwords⟩ := List.forall_mem_cons.mp hw
      simp [fill, hfirst, hword.not_mem hc, ih hrest hwords]

end HeaderBindings.Call
