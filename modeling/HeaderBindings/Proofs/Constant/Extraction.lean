import HeaderBindings.Constant.Extraction
import HeaderBindings.Proofs.Preprocessor.Segments

/-!
# Constants of a header

The expansions that a preprocessor run gives belong to the candidates of a header by their place
alone. They are paired rightly because the run is cut at its marker lines only, and because it is
refused as soon as their number is not the number of candidates.
-/
namespace HeaderBindings.Constant

open Files (Path)
open Preprocessor (Command Expander Invocation IsMarkerLine Section segments)
open Text

/-! ### Trimmed expansions -/

theorem judge_trim (t : Text) : judge (trim t) = judge t := by
  simp only [judge, trim_trim]

theorem literalValue?_trim (t : Text) : literalValue? (trim t) = literalValue? t := by
  rw [literalValue?, literalValue?, judge_trim]

/-! ### Expansions in order -/

/-- With as many expansions as candidates, the constants are the candidates that have a value, each
with the value of its own expansion, unless an expansion exhausts its reader. -/
theorem result_extract {expander : Expander} {header text : Text} {expansions : List Text}
    (hc : candidates text ≠ [])
    (h : (expander header (candidates text)).result = .ok expansions) :
    (extract expander header text).result =
      if expansions.length ≠ (candidates text).length then
        .error (.countMismatch header (candidates text).length expansions.length)
      else match expansions.findSome? fun x => (judge x).exhaustion? with
        | some cause => .error (.exhausted cause)
        | none => .ok (constantsOf (candidates text) expansions) := by
  obtain ⟨name, names, hnames⟩ := List.exists_cons_of_ne_nil hc
  rw [hnames] at h ⊢
  simp only [extract, hnames, h]
  split_ifs
  · rfl
  · rw [List.findSome?_map, Function.comp_def]
    cases expansions.findSome? fun x => (judge x).exhaustion? <;> rfl

/-- Without candidates nothing is expanded. -/
theorem result_extract_of_nil {expander : Expander} {header text : Text}
    (hc : candidates text = []) : (extract expander header text).result = .ok [] := by
  simp only [extract, hc]

theorem result_extract_of_error {expander : Expander} {header text : Text}
    {cause : Preprocessor.ExpansionError} (hc : candidates text ≠ [])
    (h : (expander header (candidates text)).result = .error cause) :
    (extract expander header text).result = .error (.expansion cause) := by
  obtain ⟨name, names, hnames⟩ := List.exists_cons_of_ne_nil hc
  rw [hnames] at h
  simp only [extract, hnames, h]

/-- Of an expander only its answers matter. -/
theorem result_extract_congr {x y : Expander} {header text : Text}
    (h : (x header (candidates text)).result = (y header (candidates text)).result) :
    (extract x header text).result = (extract y header text).result := by
  by_cases hc : candidates text = []
  · rw [result_extract_of_nil hc, result_extract_of_nil hc]
  · cases hy : (y header (candidates text)).result with
    | error cause => rw [result_extract_of_error hc hy, result_extract_of_error hc (h.trans hy)]
    | ok expansions => rw [result_extract hc hy, result_extract hc (h.trans hy)]

/-- A run of the preprocessor that succeeds gives the segments of its output. -/
theorem result_expander {c : Command} {cwd : Path} {process : Invocation → Preprocessor.Outcome}
    {header : Text} {names : List Text} (hn : names ≠ []) (hnul : '\x00' ∉ header)
    {output errors : Text}
    (h : process (c.invocation cwd header names) = .exited 0 output errors) :
    (c.expander cwd process header names).result = .ok (segments c.marker output) := by
  have hcontains : header.contains '\x00' = false := by simpa using hnul
  simp only [Command.expander, Preprocessor.expanderOf, if_neg hn, hcontains, Bool.false_eq_true,
    if_false, h]
  rfl

/-- Constants are paired with their own expansions. Where the preprocessor prints some lines, then
for each candidate a marker line and the lines of its expansion, the segments are these expansions,
and the constants are the candidates whose expansion has a value. Where the marker lines are more or
fewer than the candidates nothing is paired. -/
theorem extract_expanded {c : Command} (hm : '\n' ∉ c.marker) (hne : c.marker ≠ []) {cwd : Path}
    {process : Invocation → Preprocessor.Outcome} {header text output errors : Text}
    (hnul : '\x00' ∉ header) (hc : candidates text ≠ [])
    (h : process (c.invocation cwd header (candidates text)) = .exited 0 output errors) :
    (∀ (start : List Text) (parts : List (Text × Section)),
      candidates text = parts.map (·.1) →
      (∀ l ∈ start, '\n' ∉ l ∧ ¬IsMarkerLine c.marker l) →
      (∀ p ∈ parts, p.2.IsPlain c.marker) →
      (output = Section.print start (parts.map (·.2)) ∨
        output = Section.print start (parts.map (·.2)) ++ ['\n']) →
      segments c.marker output = parts.map (fun p => trim p.2.text) ∧
        (extract (c.expander cwd process) header text).result =
          match parts.findSome? fun p => (judge p.2.text).exhaustion? with
          | some cause => .error (.exhausted cause)
          | none => .ok (parts.filterMap fun p => (literalValue? p.2.text).map (p.1, ·))) ∧
      ((lines output).countP (fun l => IsMarkerLine c.marker l) ≠ (candidates text).length →
        (extract (c.expander cwd process) header text).result =
          .error (.countMismatch header (candidates text).length
            ((lines output).countP fun l => IsMarkerLine c.marker l))) := by
  have hresult := result_extract hc (result_expander hc hnul h)
  refine ⟨fun start parts hnames hstart hparts houtput => ?_, fun hcount => ?_⟩
  · have hsections : ∀ s ∈ parts.map (·.2), s.IsPlain c.marker := by
      intro s hs
      obtain ⟨p, hp, rfl⟩ := List.mem_map.mp hs
      exact hparts p hp
    have hprint := Section.segments_print hm hne hstart hsections
    have hsegments : segments c.marker output = parts.map fun p => trim p.2.text := by
      rcases houtput with rfl | rfl
      · rw [hprint, List.map_map]
        rfl
      · rw [Preprocessor.segments_concat_newline hm hne, hprint, List.map_map]
        rfl
    refine ⟨hsegments, ?_⟩
    rw [hresult, hsegments, if_neg (by simp [hnames]), List.findSome?_map, hnames, constantsOf,
      List.zip_map', List.filterMap_map]
    simp only [Function.comp_def, judge_trim, literalValue?_trim]
  · rw [hresult, Preprocessor.length_segments hm hne, if_pos hcount]

/-- A preprocessor for a header that consists of macros: it prints every further line of its input,
with the expansion of the macro that the line names. -/
def expandLines (macros : List (Text × Text)) (i : Invocation) : Preprocessor.Outcome :=
  .exited 0 (join ['\n'] (((lines i.input.shown).drop 1).map fun l => (macros.lookup l).getD l)) []

/-- A header in which the marker stands inside an expansion. -/
def markedHeader : Text :=
  "#define A 010\n#define B __CVBINDGEN_CONSTANT_MARKER__ x\n#define C 7".toList

/-- Its macros with the sections that are printed for them. -/
def markedParts : List (Text × Section) :=
  [("A".toList, ⟨Preprocessor.defaultMarker, ["010".toList]⟩),
    ("B".toList, ⟨Preprocessor.defaultMarker, [Preprocessor.defaultMarker ++ " x".toList]⟩),
    ("C".toList, ⟨Preprocessor.defaultMarker, ["7".toList]⟩)]

theorem extract_expanded_marked :
    (extract (Command.standard.expander ⟨['/'], []⟩
        (expandLines (markedParts.map fun p => (p.1, p.2.text))))
      "a.h".toList markedHeader).result =
      .ok [("A".toList, .int 8), ("C".toList, .int 7)] := by
  have hc : candidates markedHeader = markedParts.map (·.1) := by decide +kernel
  have hparts : ∀ p ∈ markedParts, p.2.IsPlain Command.standard.marker := by
    simp only [markedParts, List.forall_mem_cons]
    exact ⟨⟨by decide +kernel, by decide +kernel⟩, ⟨by decide +kernel, by decide +kernel⟩,
      ⟨by decide +kernel, by decide +kernel⟩, List.forall_mem_nil _⟩
  have hnone : candidates markedHeader ≠ [] := by
    rw [hc]
    exact List.cons_ne_nil _ _
  have hrun : expandLines (markedParts.map fun p => (p.1, p.2.text))
      (Command.standard.invocation ⟨['/'], []⟩ "a.h".toList (candidates markedHeader)) =
      .exited 0 (Section.print [] (markedParts.map (·.2)) ++ ['\n']) [] := by
    rw [hc]
    decide +kernel
  exact ((extract_expanded (by decide) (by decide) (by decide) hnone hrun).1 [] markedParts hc
    (List.forall_mem_nil _) hparts (.inr rfl)).2

end HeaderBindings.Constant
