import HeaderBindings.Proofs.Call.Reading
import HeaderBindings.Proofs.Constant.Respelling

/-!
# References of call code

Call code refers to the parameters of a declaration string by `$P(..)` and to their axes by
`$SIZE(..)`. Every dollar of a written code begins such a reference to a parameter or an axis of the
plan, and the names and axes that a declaration string declares can be read from it without its
markers and element types.
-/
namespace HeaderBindings

open Call (IsSymbol endsSymbol)
open Text

/-! ### Declared names -/

namespace Parameter

/-- The symbol at the end of a text. -/
def lastSymbol (t : Text) : Text := (t.reverse.takeWhile mayBeIdentifier).reverse

/-- The name that stands before the parentheses, and the axes between them. -/
def declaredAt? (t : Text) : Option (Text × List Text) := do
  let (before, r) ← cutAt? '(' t
  let (axes, _) ← cutAt? ')' r
  some (lastSymbol before, splitOn ',' axes)

/-- The names that a declaration string declares, each with its axes. -/
def declaredIn (t : Text) : List (Text × List Text) := (splitOn ';' t).filterMap declaredAt?

/-- A parameter whose name is a symbol, and whose axes are symbols or numbers. -/
structure IsDeclared (p : Parameter) : Prop where
  name : IsSymbol p.name
  axes_ne : p.axes ≠ []
  axes : ∀ a ∈ p.axes, ∀ c ∈ a.write, mayBeIdentifier c = true ∨ c = '-'

/-- What stands before the name. -/
def start (p : Parameter) : Text := p.leadingWords.flatMap (· ++ [' '])

section Declared
variable {p : Parameter}

theorem write_eq_start (p : Parameter) : p.write =
    p.start ++ (p.name ++ '(' :: (writeAxes p.axes ++ [')'])) := by
  rw [write, join_concat, start, List.append_assoc p.name, List.cons_append]

theorem not_mem_start (p : Parameter) : '(' ∉ p.start ∧ ';' ∉ p.start := by
  unfold start leadingWords
  cases p.role <;> cases p.element <;> decide

theorem endsSymbol_start {s : Text} (hs : s = [] ∨ s = [' ']) (p : Parameter) :
    endsSymbol (s ++ p.start).reverse = true := by
  unfold start leadingWords
  rcases hs with rfl | rfl <;> cases p.role <;> cases p.element <;> decide

theorem lastSymbol_append {t w : Text} (ht : endsSymbol t.reverse = true) (hw : IsSymbol w) :
    lastSymbol (t ++ w) = w := by
  have hrev : ∀ c ∈ w.reverse, mayBeIdentifier c = true :=
    fun c hc => hw.forall_mem c (List.mem_reverse.mp hc)
  have hstop : t.reverse.takeWhile mayBeIdentifier = [] := by
    cases hr : t.reverse with
    | nil => rfl
    | cons c r => simpa [hr, endsSymbol] using ht
  rw [lastSymbol, List.reverse_append, List.takeWhile_append_of_pos hrev, hstop, List.append_nil,
    List.reverse_reverse]

theorem not_mem_axes (h : p.IsDeclared) {c : Char} (hc : mayBeIdentifier c = false) (hm : c ≠ '-') :
    ∀ t ∈ p.axes.map Axis.write, c ∉ t := by
  intro t ht hmem
  obtain ⟨a, ha, rfl⟩ := List.mem_map.mp ht
  rcases h.axes a ha c hmem with h | h
  · rw [h] at hc
    cases hc
  · exact hm h

/-- What a written parameter declares is its name with its axes. -/
theorem declaredAt?_write (h : p.IsDeclared) {s : Text} (hs : s = [] ∨ s = [' ']) :
    declaredAt? (s ++ p.write) = some (p.name, p.axes.map Axis.write) := by
  have hbefore : '(' ∉ s ++ p.start ++ p.name := by
    have hspace : '(' ∉ s := by rcases hs with rfl | rfl <;> decide
    simp [hspace, (not_mem_start p).1, h.name.not_mem (c := '(') (by decide)]
  have hclose : ')' ∉ writeAxes p.axes :=
    not_mem_join (by decide) (not_mem_axes h (by decide) (by decide))
  have haxes : splitOn ',' (writeAxes p.axes) = p.axes.map Axis.write := by
    have hfree := not_mem_axes h (c := ',') (by decide) (by decide)
    unfold writeAxes
    cases hax : p.axes with
    | nil => exact absurd hax h.axes_ne
    | cons a axes =>
      rw [hax] at hfree
      exact splitOn_join_singleton hfree
  have htext : s ++ p.write = (s ++ p.start ++ p.name) ++ '(' :: (writeAxes p.axes ++ [')']) := by
    simp [write_eq_start]
  rw [declaredAt?, htext, cutAt?_append hbefore]
  simp only [Option.bind_eq_bind, Option.bind_some]
  rw [cutAt?_append hclose []]
  simp only [Option.bind_some, haxes, lastSymbol_append (endsSymbol_start hs p) h.name]

theorem semicolon_not_mem (h : p.IsDeclared) : ';' ∉ p.write := by
  have haxes : ';' ∉ writeAxes p.axes :=
    not_mem_join (by decide) (not_mem_axes h (by decide) (by decide))
  have hname : ';' ∉ p.name := h.name.not_mem (by decide)
  simp [write_eq_start, (not_mem_start p).2, haxes, hname]

/-- A declaration string declares its parameters with their axes. -/
theorem declaredIn_writeAll {ps : List Parameter} (h : ∀ p ∈ ps, p.IsDeclared) :
    declaredIn (writeAll ps) = ps.map fun p => (p.name, p.axes.map Axis.write) := by
  cases ps with
  | nil => rfl
  | cons p ps =>
    have hfree : ∀ t ∈ p.write :: ps.map write, ';' ∉ t := by
      intro t ht
      obtain ⟨q, hq, rfl⟩ : ∃ q ∈ p :: ps, q.write = t := List.mem_map.mp ht
      exact semicolon_not_mem (h q hq)
    have hcut : splitOn ';' (writeAll (p :: ps)) = p.write :: (ps.map write).map ([' '] ++ ·) :=
      splitOn_join (by decide) hfree
    have hfirst : declaredAt? p.write = some (p.name, p.axes.map Axis.write) :=
      declaredAt?_write (h p List.mem_cons_self) (.inl rfl)
    have hrest : ((ps.map write).map ([' '] ++ ·)).filterMap declaredAt? =
        ps.map fun q => (q.name, q.axes.map Axis.write) := by
      rw [List.map_map, List.filterMap_map, ← List.filterMap_eq_map]
      refine List.filterMap_congr fun q hq => ?_
      exact declaredAt?_write (h q (List.mem_cons_of_mem _ hq)) (.inr rfl)
    rw [declaredIn, hcut, List.filterMap_cons_some hfirst, hrest, List.map_cons]

end Declared
end Parameter

/-! ### References -/

namespace Call

/-- A text in which every dollar begins a reference to one of the names or one of the axes. -/
def Refers (names axes : List Text) (t : Text) : Prop :=
  ∀ before after, t = before ++ '$' :: after →
    (∃ x ∈ names, "P(".toList ++ (x ++ [')']) <+: after) ∨
      ∃ a ∈ axes, "SIZE(".toList ++ (a ++ [')']) <+: after

namespace Refers
variable {names axes : List Text} {t u : Text}

theorem of_not_mem (h : '$' ∉ t) : Refers names axes t := by
  rintro before after rfl
  simp at h

theorem append (ht : Refers names axes t) (hu : Refers names axes u) :
    Refers names axes (t ++ u) := by
  intro before after h
  rcases List.append_eq_append_iff.mp h with ⟨s, rfl, hs⟩ | ⟨s, rfl, hs⟩
  · exact hu s after hs
  · cases s with
    | nil => exact hu [] after hs.symm
    | cons c s =>
      obtain ⟨rfl, rfl⟩ := List.cons.inj hs
      rcases ht before s rfl with ⟨x, hx, hp⟩ | ⟨a, ha, hp⟩
      · exact .inl ⟨x, hx, hp.trans (List.prefix_append s u)⟩
      · exact .inr ⟨a, ha, hp.trans (List.prefix_append s u)⟩

theorem dollar {r : Text} (hd : '$' ∉ r) (hr : (∃ x ∈ names, "P(".toList ++ (x ++ [')']) <+: r) ∨
    ∃ a ∈ axes, "SIZE(".toList ++ (a ++ [')']) <+: r) : Refers names axes ('$' :: r) := by
  intro before after h
  cases before with
  | nil =>
    obtain ⟨-, rfl⟩ := List.cons.inj h
    exact hr
  | cons c before =>
    obtain ⟨-, rfl⟩ := List.cons.inj h
    simp at hd

theorem parameter {x : Text} (hx : x ∈ names) (hd : '$' ∉ x) :
    Refers names axes ("$P(".toList ++ (x ++ [')'])) := by
  have hfree : '$' ∉ "P(".toList ++ (x ++ [')']) := by simp [hd]
  exact dollar hfree (.inl ⟨x, hx, List.prefix_rfl⟩)

theorem axis {a : Text} (ha : a ∈ axes) (hd : '$' ∉ a) : Refers names axes (sizeOf a) := by
  have hfree : '$' ∉ "SIZE(".toList ++ (a ++ [')']) := by simp [hd]
  have hdollar : Refers names axes ('$' :: ("SIZE(".toList ++ (a ++ [')']))) :=
    dollar hfree (.inr ⟨a, ha, List.prefix_rfl⟩)
  unfold sizeOf
  rw [List.append_assoc]
  exact hdollar

theorem flatten {ts : List Text} (h : ∀ t ∈ ts, Refers names axes t) :
    Refers names axes ts.flatten := by
  induction ts with
  | nil => exact of_not_mem List.not_mem_nil
  | cons t ts ih =>
    obtain ⟨ht, hts⟩ := List.forall_mem_cons.mp h
    exact ht.append (ih hts)

theorem join {sep : Text} (hs : '$' ∉ sep) {ts : List Text} (h : ∀ t ∈ ts, Refers names axes t) :
    Refers names axes (Text.join sep ts) := by
  cases ts with
  | nil => exact of_not_mem List.not_mem_nil
  | cons t ts =>
    obtain ⟨ht, hts⟩ := List.forall_mem_cons.mp h
    rw [join_cons]
    refine ht.append (flatten fun u hu => ?_)
    obtain ⟨v, hv, rfl⟩ := List.mem_map.mp hu
    exact (of_not_mem hs).append (hts v hv)

theorem eq_of_prefix_append {x y u : Text} (hx : ')' ∉ x) (hy : ')' ∉ y)
    (h : y ++ [')'] <+: x ++ ')' :: u) : y = x := by
  obtain ⟨v, hv⟩ := h
  rw [List.append_assoc, List.singleton_append] at hv
  have hcut := cutAt?_append hy v
  rw [hv, cutAt?_append hx] at hcut
  exact (Prod.mk.inj (Option.some.inj hcut)).1.symm

/-- A reference to a parameter names one. -/
theorem mem_names (h : Refers names axes t) (hn : ∀ x ∈ names, ')' ∉ x) {x : Text} (hx : ')' ∉ x)
    (ht : "$P(".toList ++ (x ++ [')']) <:+: t) : x ∈ names := by
  obtain ⟨before, u, rfl⟩ := ht
  have hafter := h before ("P(".toList ++ (x ++ ')' :: u)) (by simp)
  rcases hafter with ⟨y, hy, hp⟩ | ⟨a, -, v, hv⟩
  · rw [List.prefix_append_right_inj] at hp
    exact eq_of_prefix_append hx (hn y hy) hp ▸ hy
  · cases (List.cons.inj hv).1

/-- A reference to an axis names one. -/
theorem mem_axes (h : Refers names axes t) (hn : ∀ a ∈ axes, ')' ∉ a) {a : Text} (ha : ')' ∉ a)
    (ht : "$SIZE(".toList ++ (a ++ [')']) <:+: t) : a ∈ axes := by
  obtain ⟨before, u, rfl⟩ := ht
  have hafter := h before ("SIZE(".toList ++ (a ++ ')' :: u)) (by simp)
  rcases hafter with ⟨x, -, v, hv⟩ | ⟨b, hb, hp⟩
  · cases (List.cons.inj hv).1
  · rw [List.prefix_append_right_inj] at hp
    exact eq_of_prefix_append ha (hn b hb) hp ▸ hb

end Refers

/-! ### References of a plan -/

section Code
variable {names axes : List Text}

theorem refers_slot {s : Slot} (h : s.IsPlain) (hn : s.name ∈ names) :
    Refers names axes s.write := by
  have htype : '$' ∉ "*(".toList ++ (s.type ++ "*)".toList) := by
    simp [h.type.not_mem (c := '$') (by decide)]
  have hwrite : s.write = ("*(".toList ++ (s.type ++ "*)".toList)) ++
      ("$P(".toList ++ (s.name ++ [')'])) := by
    simp [Slot.write_eq, fill, valueForm]
  rw [hwrite]
  exact (Refers.of_not_mem htype).append (.parameter hn (h.name.not_mem (by decide)))

theorem refers_operand {o : Operand} (h : o.slot.IsPlain) (hn : o.slot.name ∈ names) :
    Refers names axes o.write := by
  cases o with
  | matrix s => exact .of_not_mem ((IsSymbol.pointerVariable h.name).not_mem (by decide))
  | value s => exact refers_slot h hn

theorem refers_call {e : Expression} (hf : IsSymbol e.function)
    (ho : ∀ o ∈ e.operands, o.slot.IsPlain ∧ o.slot.name ∈ names)
    (ht : ∀ s ∈ e.target, s.IsPlain ∧ s.name ∈ names) : Refers names axes e.write := by
  have hfunction : Refers names axes e.function := .of_not_mem (hf.not_mem (by decide))
  have hoperands : Refers names axes (Text.join [',', ' '] (e.operands.map Operand.write)) := by
    refine Refers.join (by decide) fun t h => ?_
    obtain ⟨o, hmem, rfl⟩ := List.mem_map.mp h
    exact refers_operand (ho o hmem).1 (ho o hmem).2
  have hcall : Refers names axes (e.function ++
      '(' :: Text.join [',', ' '] (e.operands.map Operand.write) ++ [')', ';']) := by
    rw [List.append_assoc, List.cons_append]
    refine hfunction.append (.append (t := ['(']) (.of_not_mem (by decide)) ?_)
    exact hoperands.append (.of_not_mem (by decide))
  unfold Expression.write
  cases htarget : e.target with
  | none => exact hcall
  | some s =>
    have hslot : Refers names axes s.write := refers_slot (ht s htarget).1 (ht s htarget).2
    exact (hslot.append (.of_not_mem (by decide))).append hcall

/-- The parameters and axes that a plan names are among the given ones. -/
structure Plan.Names (names axes : List Text) (p : Plan) : Prop where
  steps : ∀ m ∈ p.steps, m.name ∈ names ∧ m.rows ∈ axes ∧ m.columns ∈ axes
  operands : ∀ o ∈ p.call.operands, o.slot.name ∈ names
  target : ∀ s ∈ p.call.target, s.name ∈ names

variable {p : Plan} {i : Instantiation}

theorem refers_declare {m : MatrixStep} (h : m.IsPlain) :
    ∀ t ∈ (Statement.declare m).lines, Refers names axes t := by
  have hv : '$' ∉ m.variableName := (IsSymbol.matrixVariable h.name).not_mem (by decide)
  have hp : '$' ∉ m.pointerName := (IsSymbol.pointerVariable h.name).not_mem (by decide)
  refine List.forall_mem_singleton.mpr (.of_not_mem ?_)
  simp [hv, hp]

theorem refers_attach {m : MatrixStep} (h : m.IsPlain) (hn : m.name ∈ names) (hr : m.rows ∈ axes)
    (hc : m.columns ∈ axes) {type : Text} (ht : IsSymbol type) :
    ∀ t ∈ (Statement.attach m type).lines, Refers names axes t := by
  have hv : Refers names axes m.variableName :=
    .of_not_mem ((IsSymbol.matrixVariable h.name).not_mem (by decide))
  have hp : Refers names axes m.pointerName :=
    .of_not_mem ((IsSymbol.pointerVariable h.name).not_mem (by decide))
  have hrows : Refers names axes (sizeOf m.rows) := .axis hr (h.rows.not_mem (by decide))
  have hcolumns : Refers names axes (sizeOf m.columns) := .axis hc (h.columns.not_mem (by decide))
  have htype : Refers names axes type := .of_not_mem (ht.not_mem (by decide))
  have hbuffer : Refers names axes (", $P(".toList ++ (m.name ++ "));".toList)) := by
    have hname : Refers names axes ("$P(".toList ++ (m.name ++ [')'])) :=
      .parameter hn (h.name.not_mem (by decide))
    have hcomma : Refers names axes ", ".toList := .of_not_mem (by decide)
    have hend : Refers names axes ");".toList := .of_not_mem (by decide)
    simpa using hcomma.append (hname.append hend)
  have hfixed {t : Text} (h : '$' ∉ t) : Refers names axes t := .of_not_mem h
  have hsizes : Refers names axes (indent ++ m.variableName ++ " = cvMat(".toList ++
      sizeOf m.columns ++ ", ".toList ++ sizeOf m.rows) :=
    .append (.append (.append (.append (.append (hfixed (by decide)) hv) (hfixed (by decide)))
      hcolumns) (hfixed (by decide))) hrows
  unfold Statement.lines
  simp only [List.forall_mem_cons]
  refine ⟨?test, ?assign, ?point, hfixed (by decide), List.forall_mem_nil _⟩
  case test =>
    exact .append (.append (.append (.append (hfixed (by decide)) hrows) (hfixed (by decide)))
      hcolumns) (hfixed (by decide))
  case assign =>
    rw [List.append_assoc _ m.name, List.append_assoc _ ", $P(".toList]
    exact (hsizes.append (hfixed (by decide))).append htype |>.append hbuffer
  case point =>
    exact .append (.append (.append (.append (hfixed (by decide)) hp) (hfixed (by decide))) hv)
      (hfixed (by decide))

theorem refers_statement (h : p.IsPlain) (hn : p.Names names axes) {s : Statement}
    (hmem : s ∈ p.body i) : ∀ t ∈ s.lines, Refers names axes t := by
  simp only [Plan.body, List.mem_append, List.mem_map, List.mem_singleton] at hmem
  rcases hmem with (⟨m, hm, rfl⟩ | ⟨m, hm, rfl⟩) | rfl
  · exact refers_declare (h.steps m hm)
  · obtain ⟨hname, hrows, hcolumns⟩ := hn.steps m hm
    exact refers_attach (h.steps m hm) hname hrows hcolumns (Line.isSymbol_matrixType m i)
  · refine List.forall_mem_singleton.mpr (refers_call h.function ?_ ?_)
    · exact fun o ho => ⟨h.operands o ho, hn.operands o ho⟩
    · exact fun s hs => ⟨h.target s hs, hn.target s hs⟩

/-- The code of a plan refers to what its steps and its slots name. -/
theorem refers_code (h : p.IsPlain) (hn : p.Names names axes) (is : List Instantiation) :
    Refers names axes (p.code is) := by
  unfold Plan.code
  split_ifs with hg
  · refine .join (by decide) fun t ht => ?_
    obtain ⟨i, -, ht⟩ := List.mem_flatMap.mp ht
    simp only [Plan.block, List.mem_append, List.mem_cons, List.mem_flatMap, List.mem_map,
      List.not_mem_nil, or_false] at ht
    rcases ht with (rfl | ⟨s, hs, u, hu, rfl⟩) | rfl
    · exact .of_not_mem (by cases i <;> decide)
    · exact .append (.of_not_mem (by decide)) (refers_statement h hn hs u hu)
    · exact .of_not_mem (by decide)
  · exact refers_call h.function (fun o ho => ⟨h.operands o ho, hn.operands o ho⟩)
      fun s hs => ⟨h.target s hs, hn.target s hs⟩

end Code
end Call
end HeaderBindings
