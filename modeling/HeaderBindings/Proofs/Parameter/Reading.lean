import HeaderBindings.Parameter.Reading
import HeaderBindings.Proofs.Text.Lines
import HeaderBindings.Proofs.Text.Numerals

/-!
# What is read of written parameters

Written parameters are read as the same parameters up to their axes: an axis is written without a
mark of its kind, and digits alone are read as a size.
-/
namespace HeaderBindings

open NativeType (Element)
open Text

/-- What separates axes, encloses them, and separates parameters. -/
def delimiters : List Char := [',', '(', ')', ';']

/-- An axis that is found again among others. -/
structure Axis.IsPlain (a : Axis) : Prop where
  isTrimmed : IsTrimmed a.write
  not_mem : ∀ c ∈ delimiters, c ∉ a.write

theorem Axis.IsPlain.of_isWordText {a : Axis} (h : IsWordText a.write) : a.IsPlain where
  isTrimmed := h.isTrimmed
  not_mem c hc := by
    have hw : ∀ c ∈ delimiters, isWord c = false := by decide
    exact h.not_mem (hw c hc)

namespace Parameter

/-- A parameter with a name of its own and axes that are found again. An empty text between its
parentheses would not tell one empty axis from none. -/
structure IsPlain (p : Parameter) : Prop where
  name : isName p.name = true
  axes : ∀ a ∈ p.axes, a.IsPlain
  axes_eq_nil : writeAxes p.axes = [] → p.axes = []

/-- A reader returns all that is given to it exactly when it returns each. -/
theorem mapM_eq_self_iff {α ε : Type} {f : α → Except ε α} {xs : List α} :
    xs.mapM f = .ok xs ↔ ∀ x ∈ xs, f x = .ok x := by
  induction xs with
  | nil => simp; rfl
  | cons x xs ih =>
    rw [List.mapM_cons, List.forall_mem_cons, ← ih]
    cases f x with
    | error e => simp [bind, Except.bind]
    | ok y =>
      cases xs.mapM f with
      | error e => simp [bind, Except.bind]
      | ok ys => simp [bind, Except.bind, pure, Except.pure]

/-! ### Axes -/

theorem isPlain_size (n : ℕ) : (Axis.size n).IsPlain :=
  .of_isWordText fun c hc => isWord_of_isDigit (isDigit_ofNat c hc)

theorem write_size_ne_nil (n : ℕ) : (Axis.size n).write ≠ [] := Nat.toDigits_ne_nil

/-- A size is read again if it has few enough digits. -/
theorem readAxis_size {n : ℕ} (h : n < 10 ^ maxDigits) :
    readAxis (Axis.size n).write = .ok (.size n) := by
  have hdigits : (Axis.size n).write.all isDigitLike = true :=
    List.all_eq_true.mpr fun c hc => isDigitLike_of_isDigit (isDigit_ofNat c hc)
  have hread : readInt? (Axis.size n).write = .ok (n : ℤ) := readInt?_ofNat h
  rw [readAxis, hdigits, hread]
  simp [write_size_ne_nil, Except.map]

section Axes
variable {axes : List Axis}

theorem not_mem_writeAxes (h : ∀ a ∈ axes, a.IsPlain) {c : Char} (hm : c ∈ delimiters)
    (hc : c ≠ ',') : c ∉ writeAxes axes :=
  not_mem_join (by simpa using hc) (List.forall_mem_map.mpr fun a ha => (h a ha).not_mem c hm)

theorem isTrimmed_writeAxes (h : ∀ a ∈ axes, a.IsPlain) : IsTrimmed (writeAxes axes) :=
  isTrimmed_join (by decide) (List.forall_mem_map.mpr fun a ha => (h a ha).isTrimmed)

/-- Every axis is read on its own. -/
theorem readAxes_writeAxes (h : ∀ a ∈ axes, a.IsPlain) (hnil : writeAxes axes = [] → axes = []) :
    readAxes (writeAxes axes) = axes.mapM fun a => readAxis a.write := by
  rw [readAxes, trim_eq_self (isTrimmed_writeAxes h)]
  cases axes with
  | nil => rfl
  | cons a axes =>
    have hne : writeAxes (a :: axes) ≠ [] := fun he => List.cons_ne_nil _ _ (hnil he)
    have hcut : splitOn ',' (writeAxes (a :: axes)) = (a :: axes).map Axis.write :=
      splitOn_join_singleton
        (List.forall_mem_map (l := a :: axes).mpr fun b hb => (h b hb).not_mem _ (by decide))
    have hparts : ((a :: axes).map Axis.write).map trim = (a :: axes).map Axis.write := by
      rw [List.map_map]
      exact List.map_congr_left fun b hb => trim_eq_self (h b hb).isTrimmed
    rw [if_neg hne, hcut, hparts, List.mapM_map]
    rfl

end Axes

/-! ### The parts of a piece -/

/-- The name of a parameter with its axes in parentheses. -/
def body (p : Parameter) : Text := p.name ++ '(' :: writeAxes p.axes ++ [')']

/-- What stands after the element type. -/
def marked (p : Parameter) : Text :=
  (if p.role = .input then [] else p.role.marker.toList ++ [' ']) ++ p.body

theorem write_eq (p : Parameter) : p.write =
    (if p.element.isExplicit then p.element.label.toList ++ [' '] else []) ++ p.marked := by
  unfold write leadingWords marked body
  split_ifs <;> simp [join]

section Parts
variable {p : Parameter}

theorem body_cons (h : p.IsPlain) : ∃ c r, p.body = c :: r ∧ isNameStart c = true := by
  obtain ⟨c, r, hn, hc, -⟩ := isName_iff.mp h.name
  exact ⟨c, r ++ '(' :: writeAxes p.axes ++ [')'], by simp [body, hn], hc⟩

theorem marked_cons (h : p.IsPlain) : ∃ c r, p.marked = c :: r ∧ isBlank c = false := by
  obtain ⟨c, r, hb, hc⟩ := body_cons h
  unfold marked
  cases p.role with
  | input => exact ⟨c, r, hb, isBlank_of_isWord (isWord_of_isNameStart hc)⟩
  | output => exact ⟨'[', _, rfl, by decide⟩
  | inout => exact ⟨'[', _, rfl, by decide⟩

/-- A word in front of a name with its axes is not followed by a blank. -/
theorem head_of_dropPrefix?_body (h : p.IsPlain) {w r : Text} (hw : IsWordText w)
    (hr : dropPrefix? w p.body = some r) : r.head?.any isBlank = false := by
  have hn : IsWordText p.name := .of_isName h.name
  have he : p.name ++ '(' :: (writeAxes p.axes ++ [')']) = w ++ r := by
    simpa [body] using dropPrefix?_eq_some_iff.mp hr
  rcases List.append_eq_append_iff.mp he with ⟨s, hws, hrs⟩ | ⟨s, hns, hrs⟩
  · cases s with
    | nil =>
      rw [List.nil_append] at hrs
      rw [← hrs]
      rfl
    | cons c s =>
      obtain ⟨rfl, -⟩ := List.cons.inj hrs
      exact absurd (hws ▸ by simp) (hw.not_mem (c := '(') rfl)
  · cases s with
    | nil =>
      rw [hrs]
      rfl
    | cons c s =>
      rw [hrs]
      exact isBlank_of_isWord (hn c (hns ▸ by simp))

theorem isWordText_label (e : Element) : IsWordText e.label.toList := by
  unfold IsWordText
  cases e <;> decide

/-- A label is not read where none is followed by a blank. -/
theorem readElement_native {t : Text}
    (h : ∀ e r, dropPrefix? (Element.label e).toList t = some r → r.head?.any isBlank = false) :
    readElement t = (.native, t) := by
  have hnone (e : Element) : (dropPrefix? e.label.toList t).bind
      (fun r => if r.head?.any isBlank then some (e, skipBlanks r) else none) = none := by
    cases hr : dropPrefix? e.label.toList t with
    | none => rfl
    | some r => simp [h e r hr]
  simp [readElement, List.findSome?, hnone]

/-- A label before a blank is read, `native` apart. -/
theorem readElement_label {e : Element} (he : e.isExplicit = true) (t : Text) :
    readElement (e.label.toList ++ ' ' :: t) = (e, skipBlanks t) := by
  have hb : isBlank ' ' = true := by decide
  have hskip : skipBlanks (' ' :: t) = skipBlanks t :=
    skipBlanks_blanks_append (u := [' ']) (by decide) t
  cases e with
  | native => cases he
  | int | float | double =>
    simp [readElement, List.findSome?, Element.label, dropPrefix?, hskip, hb]

/-- Where an element type is left out, no label is followed by a blank. -/
theorem head_of_dropPrefix?_marked (h : p.IsPlain) {e : Element} {r : Text}
    (hr : dropPrefix? e.label.toList p.marked = some r) : r.head?.any isBlank = false := by
  unfold marked at hr
  cases hrole : p.role with
  | input =>
    rw [hrole] at hr
    exact head_of_dropPrefix?_body h (isWordText_label e) hr
  | output | inout =>
    rw [hrole] at hr
    cases e <;> simp [Element.label, dropPrefix?, Role.marker] at hr

theorem readElement_write (h : p.IsPlain) : readElement p.write = (p.element, p.marked) := by
  rw [write_eq]
  split_ifs with he
  · obtain ⟨c, r, hm, hc⟩ := marked_cons h
    have hlabel := readElement_label he p.marked
    rw [hm, skipBlanks_cons_of_not hc, ← hm] at hlabel
    rwa [List.append_assoc, List.singleton_append]
  · have hnative : p.element = .native := by simpa [Element.isExplicit] using he
    rw [hnative, List.nil_append]
    exact readElement_native fun e r hr => head_of_dropPrefix?_marked h hr

theorem readRole_marked (h : p.IsPlain) : readRole p.marked = (p.role, p.body) := by
  obtain ⟨c, r, hb, hc⟩ := body_cons h
  have hskip : skipBlanks (' ' :: p.body) = p.body := by
    rw [hb]
    exact (skipBlanks_cons_of_not (isBlank_of_isWord (isWord_of_isNameStart hc)) r)
  unfold marked
  cases p.role with
  | input =>
    have hne : c ≠ '[' := by
      rintro rfl
      cases hc
    simp [readRole, List.findSome?, Role.marker, dropPrefix?, hb, hne.symm]
  | output => simp [readRole, List.findSome?, Role.marker, dropPrefix?, hskip]
  | inout => simp [readRole, List.findSome?, Role.marker, dropPrefix?, hskip]

theorem inParentheses?_axes (h : ∀ a ∈ p.axes, a.IsPlain) :
    inParentheses? ('(' :: writeAxes p.axes ++ [')']) = some (writeAxes p.axes) := by
  have hin : ∀ c ∈ writeAxes p.axes, (c ≠ '(' && c ≠ ')') = true := by
    intro c hc
    have ho : '(' ∉ writeAxes p.axes := not_mem_writeAxes h (by decide) (by decide)
    have hcl : ')' ∉ writeAxes p.axes := not_mem_writeAxes h (by decide) (by decide)
    simp only [ne_eq, decide_not, Bool.and_eq_true, Bool.not_eq_true', decide_eq_false_iff_not]
    exact ⟨fun he => ho (he ▸ hc), fun he => hcl (he ▸ hc)⟩
  have htake : (writeAxes p.axes ++ [')']).takeWhile (fun c => c ≠ '(' && c ≠ ')') =
      writeAxes p.axes := by
    rw [List.takeWhile_append_of_pos hin]
    simp
  simp only [inParentheses?, List.cons_append, dropPrefix?, if_true, bind, Option.bind, htake]

theorem semicolon_not_mem_write (h : p.IsPlain) : ';' ∉ p.write := by
  have hw : isWord ';' = false := rfl
  have hlabel : ';' ∉ p.element.label.toList := (isWordText_label p.element).not_mem hw
  have hmarker : ';' ∉ p.role.marker.toList := by cases p.role <;> decide
  have hname : ';' ∉ p.name := (IsWordText.of_isName h.name).not_mem hw
  have haxes : ';' ∉ writeAxes p.axes := not_mem_writeAxes h.axes (by decide) (by decide)
  rw [write_eq, marked, body]
  split_ifs <;> simp [hlabel, hmarker, hname, haxes]

theorem isTrimmed_write (h : p.IsPlain) : IsTrimmed p.write := by
  obtain ⟨c, r, hm, hc⟩ := marked_cons h
  refine ⟨?_, ?_⟩
  · rw [write_eq, hm]
    cases p.element with
    | int => rintro d ⟨⟩; decide
    | float => rintro d ⟨⟩; decide
    | double => rintro d ⟨⟩; decide
    | native => rintro d ⟨⟩; exact hc
  · have hl : p.write.getLast? = some ')' := by simp [write_eq, marked, body, List.getLast?_cons]
    rw [hl]
    rintro d ⟨⟩
    decide

theorem write_ne (h : p.IsPlain) : p.write ≠ [] := by
  obtain ⟨c, r, hm, -⟩ := marked_cons h
  simp [write_eq, hm]

/-- A written parameter is read again, with each of its axes as it is read. -/
theorem read_write (h : p.IsPlain) : read p.write =
    ((p.axes.mapM fun a => readAxis a.write).mapError .size).map
      fun axes => ⟨p.name, p.role, p.element, axes⟩ := by
  have hname : readName? p.body = some (p.name, '(' :: writeAxes p.axes ++ [')']) := by
    rw [body, List.append_assoc]
    exact readName?_name_append h.name rfl
  simp only [read, readElement_write h, readRole_marked h, hname, inParentheses?_axes h.axes,
    readAxes_writeAxes h.axes h.axes_eq_nil]
  cases p.axes.mapM fun a => readAxis a.write <;> rfl

end Parts

/-- Every parameter is read on its own. -/
theorem readAll_writeAll {ps : List Parameter} (h : ∀ p ∈ ps, p.IsPlain) :
    readAll (writeAll ps) = ps.mapM fun p => read p.write := by
  have hpieces : (((splitOn ';' (writeAll ps)).map trim).filter (· ≠ [])) = ps.map write := by
    cases ps with
    | nil => rfl
    | cons p ps =>
      have hsep : ∀ u ∈ p.write :: ps.map write, ';' ∉ u := by
        intro u hu
        obtain ⟨q, hq, rfl⟩ : ∃ q ∈ p :: ps, q.write = u := List.mem_map.mp hu
        exact semicolon_not_mem_write (h q hq)
      have hcut : splitOn ';' (writeAll (p :: ps)) =
          p.write :: (ps.map write).map ([' '] ++ ·) := splitOn_join (by decide) hsep
      have htrim : (ps.map write).map (trim ∘ ([' '] ++ ·)) = ps.map write := by
        rw [List.map_map]
        refine List.map_congr_left (fun q hq => ?_)
        have hq : q.IsPlain := h q (List.mem_cons_of_mem _ hq)
        exact (trim_blanks_append (by decide) _).trans (trim_eq_self (isTrimmed_write hq))
      rw [hcut, List.map_cons, List.map_map, htrim,
        trim_eq_self (isTrimmed_write (h p List.mem_cons_self)), ← List.map_cons]
      refine List.filter_eq_self.mpr (fun u hu => ?_)
      obtain ⟨q, hq, rfl⟩ := List.mem_map.mp hu
      simpa using write_ne (h q hq)
  rw [readAll, hpieces, List.mapM_map]
  rfl

/-- A parameter is read as it was written exactly when its axes are. -/
theorem read_write_eq_iff {p : Parameter} (h : p.IsPlain) :
    read p.write = .ok p ↔ ∀ a ∈ p.axes, readAxis a.write = .ok a := by
  rw [read_write h, ← mapM_eq_self_iff]
  cases p.axes.mapM fun a => readAxis a.write with
  | error e => simp [Except.map, Except.mapError]
  | ok axes => cases p; simp [Except.map, Except.mapError]

theorem readAll_writeAll_eq_iff {ps : List Parameter} (h : ∀ p ∈ ps, p.IsPlain) :
    readAll (writeAll ps) = .ok ps ↔ ∀ p ∈ ps, ∀ a ∈ p.axes, readAxis a.write = .ok a := by
  rw [readAll_writeAll h, mapM_eq_self_iff]
  exact forall₂_congr (fun p hp => read_write_eq_iff (h p hp))

end Parameter
end HeaderBindings
