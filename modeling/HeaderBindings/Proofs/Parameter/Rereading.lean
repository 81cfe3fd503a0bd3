import HeaderBindings.Proofs.Parameter.Reading
import HeaderBindings.Proofs.Steps

/-!
# Writing parameters that were read

A declaration string may be written loosely, with blanks around its pieces and axes, with empty
pieces and axes, and with digits of any script. Whatever is read from it is plain, and its axes are
read again from their own texts. So one reading settles the form: the parameters that were read are
written as a string that is read as these parameters.
-/
namespace HeaderBindings.Parameter

open NativeType (Element)
open Text

variable {t : Text}

/-! ### Axes -/

theorem hyphen_not_mem (h : t.all isDigitLike = true) : '-' ∉ t := by
  intro hm
  have hhyphen : isDigitLike '-' = false := by decide
  have hdigit := List.all_eq_true.mp h _ hm
  rw [hhyphen] at hdigit
  cases hdigit

/-- An axis that is read is a size with few enough digits, or the text itself. -/
theorem readAxis_cases {a : Axis} (h : readAxis t = .ok a) :
    (∃ n : ℕ, n < 10 ^ maxDigits ∧ a = .size n) ∨
      (a = .named t ∧ readAxis t = .ok (.named t)) := by
  by_cases hd : (t ≠ [] && t.all isDigitLike) = true
  · rw [readAxis, if_pos hd] at h
    cases hn : readInt? t with
    | error e =>
      rw [hn] at h
      cases h
    | ok n =>
      rw [hn] at h
      cases h
      obtain ⟨k, rfl, hk⟩ := exists_of_readInt? hn (hyphen_not_mem (by simp_all))
      exact .inl ⟨k, hk, rfl⟩
  · have hnamed : readAxis t = .ok (.named t) := if_neg hd
    rw [hnamed] at h
    cases h
    exact .inr ⟨rfl, hnamed⟩

/-- An axis that is read is read again from its own text. -/
theorem readAxis_write_of_readAxis {a : Axis} (h : readAxis t = .ok a) :
    readAxis a.write = .ok a := by
  rcases readAxis_cases h with ⟨n, hn, rfl⟩ | ⟨rfl, hnamed⟩
  · exact readAxis_size hn
  · exact hnamed

theorem isPlain_of_readAxis {a : Axis} (h : readAxis t = .ok a) (ht : IsTrimmed t)
    (hd : ∀ c ∈ delimiters, c ∉ t) : a.IsPlain := by
  rcases readAxis_cases h with ⟨n, -, rfl⟩ | ⟨rfl, -⟩
  · exact isPlain_size n
  · exact ⟨ht, hd⟩

theorem write_ne_nil_of_readAxis {a : Axis} (h : readAxis t = .ok a) (hne : t ≠ []) :
    a.write ≠ [] := by
  rcases readAxis_cases h with ⟨n, -, rfl⟩ | ⟨rfl, -⟩
  · exact write_size_ne_nil n
  · exact hne

section Lists
variable {axes : List Axis}

/-- Axes that are read come from the trimmed pieces between the commas, if there is any text. -/
theorem readAxes_cases (h : readAxes t = .ok axes) : axes = [] ∨
    trim t ≠ [] ∧ ((splitOn ',' (trim t)).map trim).mapM readAxis = .ok axes := by
  rw [readAxes] at h
  split_ifs at h with hnil
  · cases h
    exact .inl rfl
  · exact .inr ⟨hnil, h⟩

theorem isPlain_of_readAxes (h : readAxes t = .ok axes)
    (hd : ∀ c ∈ delimiters, c ≠ ',' → c ∉ t) :
    ∀ a ∈ axes, a.IsPlain ∧ readAxis a.write = .ok a := by
  rcases readAxes_cases h with rfl | ⟨-, hall⟩
  · exact fun a ha => absurd ha List.not_mem_nil
  · intro a ha
    obtain ⟨u, hu, hread⟩ := exists_of_mem_mapM_eq_ok hall ha
    obtain ⟨piece, hpiece, rfl⟩ := List.mem_map.mp hu
    refine ⟨isPlain_of_readAxis hread (isTrimmed_trim piece) fun c hc hm => ?_,
      readAxis_write_of_readAxis hread⟩
    have hm : c ∈ piece := mem_of_mem_trim hm
    rcases eq_or_ne c ',' with rfl | hne
    · exact not_mem_of_mem_splitOn hpiece hm
    · exact hd c hc hne (mem_of_mem_trim (mem_of_mem_splitOn hpiece c hm))

/-- One axis is never read from an empty text, and more of them are written with a comma. -/
theorem eq_nil_of_writeAxes (h : readAxes t = .ok axes) (hnil : writeAxes axes = []) :
    axes = [] := by
  rcases readAxes_cases h with rfl | ⟨hne, hall⟩
  · rfl
  · cases axes with
    | nil => rfl
    | cons a axes =>
      cases axes with
      | cons b axes => simp [writeAxes, join] at hnil
      | nil =>
        obtain ⟨u, hu, hread⟩ := exists_of_mem_mapM_eq_ok hall List.mem_cons_self
        have hone : ∃ piece, splitOn ',' (trim t) = [piece] := by
          have hlen := (forall₂_of_mapM_eq_ok hall).length_eq
          exact List.length_eq_one_iff.mp (by simpa using hlen)
        obtain ⟨piece, hpiece⟩ := hone
        have ht : piece = trim t := by
          have hjoin := join_splitOn ',' (trim t)
          rwa [hpiece] at hjoin
        have hu : u = trim t := by simpa [hpiece, ht] using hu
        exact absurd hnil (write_ne_nil_of_readAxis hread (hu ▸ hne))

end Lists

/-! ### Pieces -/

theorem readElement_suffix (t : Text) : (readElement t).2 <:+ t := by
  unfold readElement
  dsimp only
  generalize hf : [Element.int, .float, .double].findSome? _ = found
  cases found with
  | none => exact List.suffix_rfl
  | some p =>
    obtain ⟨e, -, he⟩ := List.exists_of_findSome?_eq_some hf
    obtain ⟨r, hr, he⟩ := Option.bind_eq_some_iff.mp he
    split_ifs at he
    cases he
    rw [dropPrefix?_eq_some_iff.mp hr]
    exact (List.dropWhile_suffix _).trans (List.suffix_append _ _)

theorem readRole_suffix (t : Text) : (readRole t).2 <:+ t := by
  unfold readRole
  dsimp only
  generalize hf : [Role.output, .inout].findSome? _ = found
  cases found with
  | none => exact List.suffix_rfl
  | some p =>
    obtain ⟨role, -, he⟩ := List.exists_of_findSome?_eq_some hf
    obtain ⟨r, hr, rfl⟩ := Option.map_eq_some_iff.mp he
    rw [dropPrefix?_eq_some_iff.mp hr]
    exact (List.dropWhile_suffix _).trans (List.suffix_append _ _)

theorem inParentheses?_eq_some {inner : Text} (h : inParentheses? t = some inner) :
    t = '(' :: inner ++ [')'] ∧ '(' ∉ inner ∧ ')' ∉ inner := by
  obtain ⟨r, hr, h⟩ := Option.bind_eq_some_iff.mp h
  dsimp only at h
  split_ifs at h with hclose
  cases h
  have hmem : ∀ c ∈ r.takeWhile fun c => c ≠ '(' && c ≠ ')', c ≠ '(' ∧ c ≠ ')' :=
    fun c hc => by simpa using List.mem_takeWhile_imp hc
  refine ⟨?_, fun hm => (hmem _ hm).1 rfl, fun hm => (hmem _ hm).2 rfl⟩
  rw [dropPrefix?_eq_some_iff.mp hr]
  exact congrArg ('(' :: ·) hclose

section Pieces
variable {p : Parameter}

/-- What is read from a piece is a name with the axes between the parentheses behind it. -/
theorem read_cases (h : read t = .ok p) : isName p.name = true ∧
    ∃ inner, readAxes inner = .ok p.axes ∧ '(' ∉ inner ∧ ')' ∉ inner ∧ ∀ c ∈ inner, c ∈ t := by
  unfold read at h
  dsimp only at h
  split at h
  · cases h
  · next name r hname =>
    split at h
    · cases h
    · next inner hin =>
      obtain ⟨axes, haxes, h⟩ := bind_eq_ok_iff.mp h
      cases h
      obtain ⟨hr, hopen, hclose⟩ := inParentheses?_eq_some hin
      refine ⟨isName_of_readName? hname, inner, mapError_eq_ok_iff.mp haxes, hopen, hclose, ?_⟩
      intro c hc
      have hsuffix := (readRole_suffix _).trans (readElement_suffix t)
      rw [readName?_append hname, hr] at hsuffix
      exact hsuffix.subset (by simp [hc])

theorem isPlain_of_read (h : read t = .ok p) (hs : ';' ∉ t) :
    p.IsPlain ∧ ∀ a ∈ p.axes, readAxis a.write = .ok a := by
  obtain ⟨hname, inner, haxes, hopen, hclose, hmem⟩ := read_cases h
  have hd : ∀ c ∈ delimiters, c ≠ ',' → c ∉ inner := by
    simp only [delimiters, List.forall_mem_cons]
    exact ⟨fun hc => absurd rfl hc, fun _ => hopen, fun _ => hclose, fun _ hm => hs (hmem _ hm),
      by simp⟩
  have hall := isPlain_of_readAxes haxes hd
  exact ⟨⟨hname, fun a ha => (hall a ha).1, eq_nil_of_writeAxes haxes⟩, fun a ha => (hall a ha).2⟩

end Pieces

/-! ### Declaration strings -/

variable {ps : List Parameter}

theorem isPlain_of_readAll (h : readAll t = .ok ps) :
    ∀ p ∈ ps, p.IsPlain ∧ ∀ a ∈ p.axes, readAxis a.write = .ok a := by
  intro p hp
  obtain ⟨u, hu, hread⟩ := exists_of_mem_mapM_eq_ok h hp
  obtain ⟨piece, hpiece, rfl⟩ := List.mem_map.mp (List.mem_of_mem_filter hu)
  exact isPlain_of_read hread fun hm => not_mem_of_mem_splitOn hpiece (mem_of_mem_trim hm)

/-- Parameters that were read are written as a string that is read as the same parameters. -/
theorem readAll_writeAll_of_readAll (h : readAll t = .ok ps) : readAll (writeAll ps) = .ok ps := by
  have hall := isPlain_of_readAll h
  exact (readAll_writeAll_eq_iff fun p hp => (hall p hp).1).mpr fun p hp => (hall p hp).2

/-- Empty pieces, a name like a type, leading zeros, an empty axis and digits of another script. -/
theorem readAll_writeAll_loose :
    ∃ ps, readAll " ;; int  int( 007 ,x y, ) ;[io]float(٣)".toList = .ok ps ∧
      writeAll ps = "int int(7,x y,); [io] float(3)".toList ∧ readAll (writeAll ps) = .ok ps := by
  have hread : readAll " ;; int  int( 007 ,x y, ) ;[io]float(٣)".toList =
      .ok [⟨"int".toList, .input, .int, [.size 7, .named "x y".toList, .named []]⟩,
        ⟨"float".toList, .inout, .native, [.size 3]⟩] := by decide +kernel
  exact ⟨_, hread, by decide +kernel, readAll_writeAll_of_readAll hread⟩

end HeaderBindings.Parameter
