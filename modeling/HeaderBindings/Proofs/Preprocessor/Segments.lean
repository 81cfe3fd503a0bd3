import HeaderBindings.Preprocessor.Segments
import HeaderBindings.Proofs.Text.Lines
import Mathlib.Data.List.Forall2

/-!
# Segments and lines

A marker of one line cuts the output of the preprocessor between lines only: the segments are the
groups of lines that stand behind the marker lines, and there is one for every marker line. What
stands on the other lines, the marker among it, cuts nothing.
-/
namespace HeaderBindings.Preprocessor

open Text

/-! ### Marker lines -/

/-- A line that is the marker and padding behind it. -/
def IsMarkerEnd (marker l : Text) : Prop := ∃ b, l = marker ++ b ∧ ∀ c ∈ b, isPadding c = true

/-- A line that is the marker with padding around it. -/
def IsMarkerLine (marker l : Text) : Prop :=
  ∃ a b, l = a ++ (marker ++ b) ∧ (∀ c ∈ a, isPadding c = true) ∧ ∀ c ∈ b, isPadding c = true

section Marker
variable {marker : Text}

theorem isMarkerEnd_iff {l : Text} :
    IsMarkerEnd marker l ↔ marker <+: l ∧ ∀ c ∈ l.drop marker.length, isPadding c = true := by
  constructor
  · rintro ⟨b, rfl, hb⟩
    exact ⟨List.prefix_append _ _, by rwa [List.drop_left]⟩
  · rintro ⟨⟨b, rfl⟩, hb⟩
    exact ⟨b, rfl, by rwa [List.drop_left] at hb⟩

theorem isMarkerLine_nil : IsMarkerLine marker [] ↔ IsMarkerEnd marker [] := by
  constructor
  · rintro ⟨a, b, h, -, hb⟩
    obtain ⟨-, h⟩ := List.append_eq_nil_iff.mp h.symm
    exact ⟨b, h.symm, hb⟩
  · rintro ⟨b, h, hb⟩
    exact ⟨[], b, h, List.forall_mem_nil _, hb⟩

theorem not_isMarkerLine_nil (hne : marker ≠ []) : ¬IsMarkerLine marker [] := by
  rw [isMarkerLine_nil]
  rintro ⟨b, h, -⟩
  exact hne (List.append_eq_nil_iff.mp h.symm).1

theorem isMarkerLine_cons {c : Char} {l : Text} : IsMarkerLine marker (c :: l) ↔
    isPadding c = true ∧ IsMarkerLine marker l ∨ IsMarkerEnd marker (c :: l) := by
  constructor
  · rintro ⟨a, b, h, ha, hb⟩
    cases a with
    | nil => exact .inr ⟨b, h, hb⟩
    | cons d a =>
      obtain ⟨rfl, rfl⟩ := List.cons.inj h
      obtain ⟨hd, ha⟩ := List.forall_mem_cons.mp ha
      exact .inl ⟨hd, a, b, rfl, ha, hb⟩
  · rintro (⟨hc, a, b, rfl, ha, hb⟩ | ⟨b, h, hb⟩)
    · exact ⟨c :: a, b, rfl, List.forall_mem_cons.mpr ⟨hc, ha⟩, hb⟩
    · exact ⟨[], b, h, List.forall_mem_nil _, hb⟩

instance (l : Text) : Decidable (IsMarkerEnd marker l) := decidable_of_iff _ isMarkerEnd_iff.symm

instance decidableIsMarkerLine : (l : Text) → Decidable (IsMarkerLine marker l)
  | [] => decidable_of_iff _ isMarkerLine_nil.symm
  | _ :: l =>
    have := decidableIsMarkerLine l
    decidable_of_iff _ isMarkerLine_cons.symm

/-! ### Reading a line -/

theorem dropWhile_isPadding_of_atLineEnd {rest : Text} (h : atLineEnd rest = true) :
    rest.dropWhile isPadding = rest ∧ rest.takeWhile isPadding = [] := by
  cases rest with
  | nil => exact ⟨rfl, rfl⟩
  | cons c rest =>
    obtain rfl : c = '\n' := by simpa [atLineEnd] using h
    exact ⟨rfl, rfl⟩

/-- The line ends behind the padding if there is nothing but padding. -/
theorem atLineEnd_dropWhile_isPadding {b rest : Text} (hb : '\n' ∉ b)
    (hr : atLineEnd rest = true) :
    atLineEnd ((b ++ rest).dropWhile isPadding) = true ↔ ∀ c ∈ b, isPadding c = true := by
  rw [List.dropWhile_append, ← List.dropWhile_eq_nil_iff]
  cases hd : b.dropWhile isPadding with
  | nil =>
    rw [(dropWhile_isPadding_of_atLineEnd hr).1]
    exact iff_of_true hr rfl
  | cons c r =>
    have hc : c ∈ b := (List.dropWhile_sublist isPadding).subset (hd ▸ List.mem_cons_self)
    have hne : c ≠ '\n' := ne_of_mem_of_not_mem hc hb
    simp [atLineEnd, hne]

/-- A marker of one line does not reach into the next line. -/
theorem prefix_of_prefix_append (hm : '\n' ∉ marker) {l rest : Text} (hr : atLineEnd rest = true)
    (h : marker <+: l ++ rest) : marker <+: l := by
  obtain ⟨r, hr'⟩ := h
  rcases List.append_eq_append_iff.mp hr' with ⟨b, rfl, -⟩ | ⟨b, rfl, hb⟩
  · exact List.prefix_append _ _
  · cases b with
    | nil => simp
    | cons c b =>
      have hc : c = '\n' := by
        rw [hb] at hr
        simpa [atLineEnd] using hr
      exact absurd (by simp [hc]) hm

theorem endOfMarker?_line (hm : '\n' ∉ marker) {l rest : Text} (hl : '\n' ∉ l)
    (hr : atLineEnd rest = true) : endOfMarker? marker (l ++ rest) =
      if IsMarkerEnd marker l then some (l, rest) else none := by
  by_cases hp : marker <+: l
  · obtain ⟨b, rfl⟩ := hp
    have hb : '\n' ∉ b := fun h => hl (List.mem_append_right _ h)
    have hiff : IsMarkerEnd marker (marker ++ b) ↔ ∀ c ∈ b, isPadding c = true := by
      simp [isMarkerEnd_iff]
    simp only [endOfMarker?, List.append_assoc, dropPrefix?_append, Option.bind_eq_bind,
      Option.bind_some, atLineEnd_dropWhile_isPadding hb hr, hiff]
    split_ifs with hpad
    · obtain ⟨hdrop, htake⟩ := dropWhile_isPadding_of_atLineEnd hr
      rw [List.dropWhile_append_of_pos hpad, List.takeWhile_append_of_pos hpad, hdrop, htake,
        List.append_nil]
    · rfl
  · have hnone : dropPrefix? marker (l ++ rest) = none := by
      refine Option.eq_none_iff_forall_not_mem.mpr (fun r h => hp ?_)
      exact prefix_of_prefix_append hm hr ⟨r, (dropPrefix?_eq_some_iff.mp h).symm⟩
    rw [endOfMarker?, hnone, if_neg fun h => hp (isMarkerEnd_iff.mp h).1]
    rfl

/-- A line is read as a marker line exactly if it is one. -/
theorem markerLine?_line (hm : '\n' ∉ marker) {l rest : Text} (hl : '\n' ∉ l)
    (hr : atLineEnd rest = true) : markerLine? marker (l ++ rest) =
      if IsMarkerLine marker l then some (l, rest) else none := by
  induction l with
  | nil =>
    have hend := endOfMarker?_line hm hl hr
    simp only [isMarkerLine_nil]
    rw [← hend]
    cases rest with
    | nil => rfl
    | cons c rest =>
      obtain rfl : c = '\n' := by simpa [atLineEnd] using hr
      rfl
  | cons c l ih =>
    have hend := endOfMarker?_line hm hl hr
    have htail := ih fun h => hl (List.mem_cons_of_mem _ h)
    rw [List.cons_append] at hend ⊢
    rw [markerLine?, htail, hend]
    by_cases hc : isPadding c = true ∧ IsMarkerLine marker l
    · rw [if_pos hc.1, if_pos hc.2, if_pos (isMarkerLine_cons.mpr (.inl hc))]
    · have hnone : (if isPadding c = true then
          if IsMarkerLine marker l then some (l, rest) else none else none) = none := by
        split_ifs with hp hi
        · exact absurd ⟨hp, hi⟩ hc
        · rfl
        · rfl
      rw [hnone]
      simp only [isMarkerLine_cons, hc, false_or]

/-! ### Pieces and groups of lines -/

theorem pieces_false_nil : pieces marker false [] = [[]] := by
  rw [pieces.eq_def]
  rfl

theorem pieces_false_cons (c : Char) (t : Text) :
    pieces marker false (c :: t) = onto c (pieces marker (c = '\n') t) := by
  rw [pieces.eq_def]
  rfl

theorem pieces_of_markerLine? {l rest : Text} (hl : l ≠ []) (hend : '\n' ∉ l) {t : Text}
    (h : markerLine? marker t = some (l, rest)) :
    pieces marker true t = [] :: pieces marker false rest := by
  rw [pieces.eq_def]
  split
  · next c line r hsome =>
    obtain ⟨rfl, rfl⟩ : l = c :: line ∧ rest = r := by simpa [h] using hsome
    have hlast : (c :: line).getLast? ≠ some '\n' := fun hc => hend (List.mem_of_getLast? hc)
    rw [decide_eq_false hlast]
  · next r hsome =>
    obtain ⟨rfl, -⟩ : l = [] ∧ rest = r := by simpa [h] using hsome
    exact absurd rfl hl
  · next hnone => simp [h] at hnone

theorem pieces_of_none {t : Text} (h : markerLine? marker t = none) :
    pieces marker true t = pieces marker false t := by
  rw [pieces.eq_def]
  split
  · next hsome => simp [h] at hsome
  · next hsome => simp [h] at hsome
  · cases t with
    | nil => exact pieces_false_nil.symm
    | cons c t => exact (pieces_false_cons c t).symm

/-- Inside a line every character belongs to the same piece. -/
theorem pieces_append {l : Text} (hl : '\n' ∉ l) {rest p : Text} {ps : List Text}
    (h : pieces marker false rest = p :: ps) :
    pieces marker false (l ++ rest) = (l ++ p) :: ps := by
  induction l with
  | nil => exact h
  | cons c l ih =>
    obtain ⟨hc, hl⟩ := List.ne_and_not_mem_of_not_mem_cons hl
    rw [List.cons_append, pieces_false_cons, decide_eq_false hc.symm, ih hl]
    rfl

/-- A piece is a group of lines with a line feed before each, and one more if a marker line ends
it. -/
def Covers (p : Text) (g : List Text) : Prop :=
  p = g.flatMap ('\n' :: ·) ∨ p = g.flatMap ('\n' :: ·) ++ ['\n']

theorem Covers.cons {p l : Text} {g : List Text} (h : Covers p g) :
    Covers ('\n' :: (l ++ p)) (l :: g) := by
  rcases h with rfl | rfl
  · exact .inl (by simp)
  · exact .inr (by simp)

theorem Covers.trim_eq {p : Text} {g : List Text} (h : Covers p g) :
    trim p = trim (join ['\n'] g) := by
  have hb : ∀ c ∈ ['\n'], isBlank c = true := by decide
  have hflat : trim (g.flatMap ('\n' :: ·)) = trim (join ['\n'] g) := by
    cases g with
    | nil => rfl
    | cons l g =>
      rw [join_cons]
      exact trim_blanks_append hb _
  rcases h with rfl | rfl
  · exact hflat
  · rw [trim_append_blanks hb, hflat]

theorem atLineEnd_flatMap (ls : List Text) : atLineEnd (ls.flatMap ('\n' :: ·)) = true := by
  cases ls <;> rfl

/-- The groups of lines between the marker lines. -/
def groups (marker : Text) (ls : List Text) : List (List Text) :=
  ls.splitOnP fun l => IsMarkerLine marker l

theorem groups_cons (l : Text) (ls : List Text) : groups marker (l :: ls) =
    if IsMarkerLine marker l then [] :: groups marker ls
    else (groups marker ls).modifyHead (l :: ·) := by
  rw [groups, List.splitOnP_cons_eq_if_modifyHead]
  exact if_congr decide_eq_true_iff rfl rfl

theorem groups_ne_nil (ls : List Text) : groups marker ls ≠ [] := List.splitOnP_ne_nil _ ls

theorem groups_eq_singleton {ls : List Text} (h : ∀ l ∈ ls, ¬IsMarkerLine marker l) :
    groups marker ls = [ls] :=
  List.splitOnP_eq_singleton fun l hl => decide_eq_false (h l hl)

theorem groups_append_cons {ls : List Text} (h : ∀ l ∈ ls, ¬IsMarkerLine marker l) {l : Text}
    (hl : IsMarkerLine marker l) (more : List Text) :
    groups marker (ls ++ l :: more) = ls :: groups marker more :=
  List.splitOnP_append_cons_of_forall_mem (fun l hl => decide_eq_false (h l hl)) l
    (decide_eq_true hl) more

theorem length_groups (ls : List Text) :
    (groups marker ls).length = ls.countP (fun l => IsMarkerLine marker l) + 1 := by
  induction ls with
  | nil => rfl
  | cons l ls ih =>
    rw [groups_cons, List.countP_cons]
    by_cases h : IsMarkerLine marker l
    · rw [if_pos h, if_pos (decide_eq_true h), List.length_cons, ih]
    · rw [if_neg h, if_neg (by simpa using h), List.length_modifyHead, ih]

/-- The pieces of lines cover the groups of these lines. -/
theorem forall₂_covers (hm : '\n' ∉ marker) (hne : marker ≠ []) {ls : List Text}
    (h : ∀ l ∈ ls, '\n' ∉ l) :
    List.Forall₂ Covers (pieces marker false (ls.flatMap ('\n' :: ·))) (groups marker ls) := by
  induction ls with
  | nil =>
    rw [List.flatMap_nil, pieces_false_nil]
    exact .cons (.inl rfl) .nil
  | cons l ls ih =>
    obtain ⟨hl, hls⟩ := List.forall_mem_cons.mp h
    have hline := markerLine?_line hm hl (atLineEnd_flatMap ls)
    rw [List.flatMap_cons, List.cons_append, pieces_false_cons, decide_eq_true rfl, groups_cons]
    by_cases hmark : IsMarkerLine marker l
    · have hnil : l ≠ [] := by
        rintro rfl
        exact not_isMarkerLine_nil hne hmark
      rw [if_pos hmark] at hline ⊢
      rw [pieces_of_markerLine? hnil hl hline]
      exact .cons (.inr rfl) (ih hls)
    · have hrest := ih hls
      obtain ⟨g, gs, hg⟩ := List.exists_cons_of_ne_nil (groups_ne_nil ls)
      rw [hg] at hrest
      obtain ⟨p, ps, hcover, htail, hp⟩ := List.forall₂_cons_right_iff.mp hrest
      rw [if_neg hmark] at hline ⊢
      rw [pieces_of_none hline, pieces_append hl hp, hg]
      exact .cons hcover.cons htail

/-- The segments are the groups of lines behind the marker lines. -/
theorem segments_eq (hm : '\n' ∉ marker) (hne : marker ≠ []) (t : Text) :
    segments marker t = ((groups marker (lines t)).drop 1).map fun g => trim (join ['\n'] g) := by
  have hlines : ∀ l ∈ lines t, '\n' ∉ l := fun l hl => not_mem_of_mem_splitOn hl
  have hcover := List.forall₂_drop 1 (forall₂_covers hm hne hlines)
  rw [flatMap_lines, pieces_false_cons, decide_eq_true rfl, drop_onto] at hcover
  rw [segments, ← List.forall₂_eq_eq_eq, List.forall₂_map_left_iff, List.forall₂_map_right_iff]
  exact hcover.imp fun _ _ h => h.trim_eq

/-- There is a segment for every marker line. -/
theorem length_segments (hm : '\n' ∉ marker) (hne : marker ≠ []) (t : Text) :
    (segments marker t).length = (lines t).countP fun l => IsMarkerLine marker l := by
  rw [segments_eq hm hne, List.length_map, List.length_drop, length_groups, Nat.add_sub_cancel]

/-! ### A line feed at the end -/

theorem forall₂_groups_concat (hne : marker ≠ []) (ls : List Text) :
    List.Forall₂ (fun g h => g = h ∨ g = h ++ [[]]) (groups marker (ls ++ [[]]))
      (groups marker ls) := by
  induction ls with
  | nil =>
    rw [List.nil_append, groups_eq_singleton (by simpa using not_isMarkerLine_nil hne)]
    exact .cons (.inr rfl) .nil
  | cons l ls ih =>
    rw [List.cons_append, groups_cons, groups_cons]
    split_ifs with h
    · exact .cons (.inl rfl) ih
    · obtain ⟨g, gs, hg⟩ := List.exists_cons_of_ne_nil (groups_ne_nil ls)
      rw [hg] at ih ⊢
      obtain ⟨first, rest, hfirst, hrest, heq⟩ := List.forall₂_cons_right_iff.mp ih
      rw [heq]
      refine .cons ?_ hrest
      rcases hfirst with rfl | rfl
      · exact .inl rfl
      · exact .inr rfl

theorem trim_join_concat (g : List Text) :
    trim (join ['\n'] (g ++ [[]])) = trim (join ['\n'] g) := by
  rcases List.eq_nil_or_concat' g with rfl | ⟨ls, l, rfl⟩
  · rfl
  · have hend : join ['\n'] (ls ++ [l] ++ [[]]) = join ['\n'] (ls ++ [l]) ++ ['\n'] := by
      rw [join_concat, join_concat, List.flatMap_append, List.append_nil, List.flatMap_singleton,
        List.append_assoc]
    rw [hend, trim_append_blanks (by decide)]

/-- A line feed at the end of the output changes nothing. -/
theorem segments_concat_newline (hm : '\n' ∉ marker) (hne : marker ≠ []) (t : Text) :
    segments marker (t ++ ['\n']) = segments marker t := by
  have hdrop := List.forall₂_drop 1 (forall₂_groups_concat hne (lines t))
  rw [segments_eq hm hne, segments_eq hm hne, lines_concat_newline, ← List.forall₂_eq_eq_eq,
    List.forall₂_map_left_iff, List.forall₂_map_right_iff]
  refine hdrop.imp fun g h hg => ?_
  rcases hg with rfl | rfl
  · rfl
  · exact trim_join_concat h

end Marker

/-! ### Printed sections -/

/-- A marker line and the lines behind it. -/
structure Section where
  markerLine : Text
  lines : List Text
deriving DecidableEq, Repr

namespace Section

def text (s : Section) : Text := join ['\n'] s.lines

/-- Only the first line is a marker line. -/
structure IsPlain (marker : Text) (s : Section) : Prop where
  markerLine : IsMarkerLine marker s.markerLine
  lines : ∀ l ∈ s.lines, '\n' ∉ l ∧ ¬IsMarkerLine marker l

/-- What is printed, less the line feed that ends the last line: some lines, and the sections. -/
def print (start : List Text) (ss : List Section) : Text :=
  join ['\n'] (start ++ ss.flatMap fun s => s.markerLine :: s.lines)

variable {marker : Text} {start : List Text} {ss : List Section}

theorem groups_sections (h : ∀ l ∈ start, ¬IsMarkerLine marker l)
    (hs : ∀ s ∈ ss, s.IsPlain marker) :
    groups marker (start ++ ss.flatMap fun s => s.markerLine :: s.lines) =
      start :: ss.map (·.lines) := by
  induction ss generalizing start with
  | nil =>
    rw [List.flatMap_nil, List.append_nil]
    exact List.splitOnP_eq_singleton (by simpa using h)
  | cons s ss ih =>
    obtain ⟨hfirst, hrest⟩ := List.forall_mem_cons.mp hs
    rw [List.flatMap_cons, List.cons_append, groups_append_cons h hfirst.markerLine,
      ih (fun l hl => (hfirst.lines l hl).2) hrest, List.map_cons]

theorem newline_not_mem_lines (hm : '\n' ∉ marker) (h : ∀ l ∈ start, '\n' ∉ l)
    (hs : ∀ s ∈ ss, s.IsPlain marker) :
    ∀ l ∈ start ++ ss.flatMap fun s => s.markerLine :: s.lines, '\n' ∉ l := by
  have hpad : ∀ t : Text, (∀ c ∈ t, isPadding c = true) → '\n' ∉ t :=
    fun t ht hn => Bool.false_ne_true (ht _ hn)
  refine List.forall_mem_append.mpr ⟨h, fun l hl => ?_⟩
  obtain ⟨s, hmem, hl⟩ := List.mem_flatMap.mp hl
  rcases List.mem_cons.mp hl with rfl | hl
  · obtain ⟨a, b, hab, ha, hb⟩ := (hs s hmem).markerLine
    rw [hab, List.mem_append, List.mem_append]
    rintro (hn | hn | hn)
    · exact hpad a ha hn
    · exact hm hn
    · exact hpad b hb hn
  · exact ((hs s hmem).lines l hl).1

/-- The segments of what is printed are the texts of the sections. -/
theorem segments_print (hm : '\n' ∉ marker) (hne : marker ≠ [])
    (h : ∀ l ∈ start, '\n' ∉ l ∧ ¬IsMarkerLine marker l) (hs : ∀ s ∈ ss, s.IsPlain marker) :
    segments marker (print start ss) = ss.map fun s => trim s.text := by
  have hgroups := groups_sections (fun l hl => (h l hl).2) hs
  have hlines := newline_not_mem_lines hm (fun l hl => (h l hl).1) hs
  rw [segments_eq hm hne, print]
  cases hall : start ++ ss.flatMap fun s => s.markerLine :: s.lines with
  | nil =>
    rw [hall] at hgroups
    have hnone : ss = [] := List.map_eq_nil_iff.mp (List.cons.inj hgroups).2.symm
    have hempty : groups marker (Text.lines []) = [[[]]] :=
      groups_eq_singleton (by simpa [Text.lines, splitOn] using not_isMarkerLine_nil hne)
    rw [hnone, join, hempty]
    rfl
  | cons l ls =>
    rw [hall] at hgroups hlines
    rw [lines_join hlines, hgroups, List.drop_one, List.tail_cons, List.map_map]
    rfl

end Section

end HeaderBindings.Preprocessor
