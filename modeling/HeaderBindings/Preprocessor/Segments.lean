import HeaderBindings.Text.Blank

/-!
# Segments of preprocessor output

A marker line holds the marker with spaces and tabs around it and nothing else. The text after each
marker line, up to the next one, is the expansion of one macro; what stands before the first belongs
to the header. A marker may itself span lines, or be empty.
-/
namespace HeaderBindings.Preprocessor

open Text

def isPadding (c : Char) : Bool := c = ' ' || c = '\t'

/-- Whether a line ends here. -/
def atLineEnd : Text → Bool
  | [] => true
  | c :: _ => c = '\n'

/-- The marker and the padding after it, if they reach the end of a line, and what follows. -/
def endOfMarker? (marker t : Text) : Option (Text × Text) := do
  let r ← dropPrefix? marker t
  let rest := r.dropWhile isPadding
  if atLineEnd rest then some (marker ++ r.takeWhile isPadding, rest) else none

theorem endOfMarker?_append {marker t line rest : Text}
    (h : endOfMarker? marker t = some (line, rest)) : t = line ++ rest := by
  simp only [endOfMarker?, Option.bind_eq_bind, Option.bind_eq_some_iff] at h
  obtain ⟨r, hr, h⟩ := h
  split at h
  · simp only [Option.some.injEq, Prod.mk.injEq] at h
    rw [dropPrefix?_eq_some_iff.1 hr, ← h.1, ← h.2, List.append_assoc,
      List.takeWhile_append_dropWhile]
  · simp at h

/-- The marker line at the start of a text, and what follows it. Padding in front of the marker is
as long as it can be. -/
def markerLine? (marker : Text) : Text → Option (Text × Text)
  | [] => endOfMarker? marker []
  | c :: r =>
    match if isPadding c then markerLine? marker r else none with
    | some (line, rest) => some (c :: line, rest)
    | none => endOfMarker? marker (c :: r)

theorem markerLine?_append {marker t line rest : Text}
    (h : markerLine? marker t = some (line, rest)) : t = line ++ rest := by
  induction t generalizing line with
  | nil => exact endOfMarker?_append h
  | cons c r ih =>
    unfold markerLine? at h
    split at h
    · next line' rest' hm =>
      split at hm
      · simp only [Option.some.injEq, Prod.mk.injEq] at h
        obtain ⟨rfl, rfl⟩ := h
        rw [List.cons_append, ← ih hm]
      · simp at hm
    · exact endOfMarker?_append h

/-- The pieces of a text between its marker lines. The flag tells that the text starts a line. After
an empty marker line the next character is passed over first. -/
def pieces (marker : Text) (atStart : Bool) (t : Text) : List Text :=
  match _h : if atStart then markerLine? marker t else none with
  | some (c :: line, rest) => [] :: pieces marker ((c :: line).getLast? = some '\n') rest
  | some ([], _) =>
    match t with
    | [] => [[], []]
    | c :: r => [] :: onto c (pieces marker (c = '\n') r)
  | none =>
    match t with
    | [] => [[]]
    | c :: r => onto c (pieces marker (c = '\n') r)
termination_by t.length
decreasing_by
  · split at _h
    · have := congrArg List.length (markerLine?_append _h)
      simp at this; omega
    · simp at _h
  · simp
  · simp

def segments (marker output : Text) : List Text := ((pieces marker true output).drop 1).map trim

end HeaderBindings.Preprocessor
