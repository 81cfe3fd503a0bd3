import HeaderBindings.Proofs.Config.Loading
import HeaderBindings.Proofs.Datum.Mappings

/-!
# Configurations that data are applied to

Data are applied as a whole as far as their keys go: where one is unknown, or the data could not be
read, nothing is set. Values are set one by one, so where one is refused the fields that are named
before it keep their new values. What is set if none is refused does not depend on the order.
-/
namespace HeaderBindings

theorem Field.name_injective {f g : Field} (h : f.name = g.name) : f = g := by
  have hg := g.ofName?_name
  rw [← h, f.ofName?_name] at hg
  exact Option.some.inj hg

theorem Field.ofName?_eq_some_iff {k : WideText} {f : Field} :
    ofName? k = some f ↔ f.name = k := by
  constructor
  · intro h
    exact of_decide_eq_true (List.find?_some (p := fun f : Field => f.name = k) h)
  · rintro rfl
    exact f.ofName?_name

namespace Config

open Files (Tree YamlReader)

/-- Each key is the name of a field. -/
def NamesFields (data : List (WideText × Datum)) : Prop := ∀ p ∈ data, ∃ f : Field, f.name = p.1

/-- The named fields have the values that data give them, and the others what they had before. -/
structure Sets (c : Config) (data : List (WideText × Datum)) (after : Config) : Prop where
  names : NamesFields data
  named : ∀ f d, (f.name, d) ∈ data → coerce f d = .ok (after.get f)
  others : ∀ f : Field, f.name ∉ data.map Prod.fst → after.get f = c.get f

/-- The ways in which data are applied: not at all because of a key, up to the first value that is
refused, or as a whole. -/
inductive Applies (c : Config) (data : List (WideText × Datum)) : Applied → Prop
  | unknown (h : ¬NamesFields data) : Applies c data ⟨c, some (.unknownKeys (unknownKeys data))⟩
  | refused {before rest : List (WideText × Datum)} {f : Field} {d : Datum} {e : LoadError}
      {after : Config} (hdata : data = before ++ (f.name, d) :: rest)
      (hnames : NamesFields data) (hbefore : Sets c before after) (hd : coerce f d = .error e) :
      Applies c data ⟨after, some e⟩
  | applied {after : Config} (h : Sets c data after) : Applies c data ⟨after, none⟩

variable {c : Config} {data : List (WideText × Datum)}

/-! ### What is set -/

theorem Sets.unique {a b : Config} (ha : Sets c data a) (hb : Sets c data b) : a = b := by
  have hget (f : Field) : a.get f = b.get f := by
    by_cases hf : f.name ∈ data.map Prod.fst
    · obtain ⟨⟨k, d⟩, hd, rfl⟩ := List.mem_map.mp hf
      exact Except.ok.inj ((ha.named f d hd).symm.trans (hb.named f d hd))
    · rw [ha.others f hf, hb.others f hf]
  cases a
  cases b
  exact congrArg Config.mk (funext hget)

/-- The order of data does not matter for what is set. -/
theorem Sets.of_perm {after : Config} (h : Sets c data after) {data' : List (WideText × Datum)}
    (hp : data'.Perm data) : Sets c data' after where
  names p hpd := h.names p (hp.subset hpd)
  named f d hd := h.named f d (hp.subset hd)
  others f hf := h.others f fun hm => hf ((hp.map Prod.fst).mem_iff.mpr hm)

theorem Sets.nil : Sets c [] c where
  names _ hp := absurd hp List.not_mem_nil
  named _ _ hd := absurd hd List.not_mem_nil
  others _ _ := rfl

theorem Sets.cons {f : Field} {d v : Datum} {after : Config} (hf : f.name ∉ data.map Prod.fst)
    (hd : coerce f d = .ok v) (h : Sets (c.set f v) data after) :
    Sets c ((f.name, d) :: data) after where
  names p hp := by
    rcases List.mem_cons.mp hp with rfl | hp
    · exact ⟨f, rfl⟩
    · exact h.names p hp
  named g d' hg := by
    rcases List.mem_cons.mp hg with heq | hg
    · obtain ⟨hkey, rfl⟩ := Prod.ext_iff.mp heq
      obtain rfl := Field.name_injective hkey
      rw [h.others g hf, get_set, if_pos rfl, hd]
    · exact h.named g d' hg
  others g hg := by
    rw [List.map_cons, List.mem_cons, not_or] at hg
    have hgf : g ≠ f := fun heq => hg.1 (heq ▸ rfl)
    rw [h.others g hg.2, get_set, if_neg hgf]

/-! ### Applying -/

theorem mem_unknownKeys {k : WideText} :
    k ∈ unknownKeys data ↔ k ∈ data.map Prod.fst ∧ ∀ f : Field, f.name ≠ k := by
  rw [unknownKeys, List.mem_mergeSort, List.mem_filter, Option.isNone_iff_eq_none,
    Option.eq_none_iff_forall_ne_some]
  exact and_congr_right fun _ => forall_congr' fun f => not_congr Field.ofName?_eq_some_iff

theorem unknownKeys_eq_nil_iff : unknownKeys data = [] ↔ NamesFields data := by
  rw [List.eq_nil_iff_forall_not_mem]
  constructor
  · intro h p hp
    by_contra hno
    exact h p.1 (mem_unknownKeys.mpr ⟨List.mem_map_of_mem hp, not_exists.mp hno⟩)
  · intro h k hk
    obtain ⟨hk, hno⟩ := mem_unknownKeys.mp hk
    obtain ⟨p, hp, rfl⟩ := List.mem_map.mp hk
    obtain ⟨f, hf⟩ := h p hp
    exact hno f hf

theorem apply_of_not_namesFields (h : ¬NamesFields data) :
    c.apply data = ⟨c, some (.unknownKeys (unknownKeys data))⟩ :=
  if_pos (unknownKeys_eq_nil_iff.not.mpr h)

theorem apply_nil : c.apply [] = ⟨c, none⟩ := by
  rw [apply, unknownKeys_eq_nil_iff.mpr fun _ hp => absurd hp List.not_mem_nil]
  rfl

theorem apply_cons {f : Field} {d : Datum} (h : NamesFields data) :
    c.apply ((f.name, d) :: data) = match coerce f d with
      | .ok v => (c.set f v).apply data
      | .error e => ⟨c, some e⟩ := by
  have hcons : NamesFields ((f.name, d) :: data) := List.forall_mem_cons.mpr ⟨⟨f, rfl⟩, h⟩
  rw [apply, if_neg (not_not_intro (unknownKeys_eq_nil_iff.mpr hcons)), List.filterMap_cons]
  simp only [Field.ofName?_name, Option.map_some]
  rw [setAll]
  cases coerce f d with
  | error e => rfl
  | ok v => exact (if_neg (not_not_intro (unknownKeys_eq_nil_iff.mpr h))).symm

/-- Each field is set, and what is set before stays as it is. -/
theorem applies_apply (hkeys : (data.map Prod.fst).Nodup) : Applies c data (c.apply data) := by
  by_cases hnames : NamesFields data
  · induction data generalizing c with
    | nil => exact apply_nil ▸ .applied .nil
    | cons p data ih =>
      obtain ⟨k, d⟩ := p
      obtain ⟨⟨f, rfl⟩, hrest⟩ := List.forall_mem_cons.mp hnames
      obtain ⟨hf, hkeys⟩ := List.nodup_cons.mp hkeys
      rw [apply_cons hrest]
      cases hd : coerce f d with
      | error e => exact .refused (List.nil_append _).symm hnames .nil hd
      | ok v =>
        have hset := ih (c := c.set f v) hkeys hrest
        dsimp only
        generalize (c.set f v).apply data = result at hset ⊢
        cases hset with
        | unknown h => exact absurd hrest h
        | @refused before rest _ _ _ _ hdata _ hbefore he =>
          have hfb : f.name ∉ before.map Prod.fst := by
            intro hm
            exact hf (by rw [hdata, List.map_append]; exact List.mem_append_left _ hm)
          exact .refused (by rw [hdata, List.cons_append]) hnames (hbefore.cons hfb hd) he
        | applied h => exact .applied (h.cons hf hd)
  · exact apply_of_not_namesFields hnames ▸ .unknown hnames

/-- What follows data that are set is applied to what they set. -/
theorem Sets.apply_append {before rest : List (WideText × Datum)} {after : Config}
    (h : Sets c before after) (hkeys : (before.map Prod.fst).Nodup) (hrest : NamesFields rest) :
    c.apply (before ++ rest) = after.apply rest := by
  induction before generalizing c with
  | nil => rw [h.unique .nil, List.nil_append]
  | cons p before ih =>
    obtain ⟨k, d⟩ := p
    obtain ⟨⟨f, rfl⟩, hnames⟩ := List.forall_mem_cons.mp h.names
    obtain ⟨hf, hkeys⟩ := List.nodup_cons.mp hkeys
    have hd := h.named f d List.mem_cons_self
    have hset : Sets (c.set f (after.get f)) before after := by
      refine ⟨hnames, fun g d' hg => h.named g d' (List.mem_cons_of_mem _ hg), fun g hg => ?_⟩
      by_cases hgf : g = f
      · rw [hgf, get_set, if_pos rfl]
      · rw [get_set, if_neg hgf]
        refine h.others g fun hm => (List.mem_cons.mp hm).elim (fun hkey => ?_) hg
        exact hgf (Field.name_injective hkey)
    rw [List.cons_append, apply_cons (List.forall_mem_append.mpr ⟨hnames, hrest⟩), hd]
    exact ih hset hkeys

/-- In what way data are applied decides the outcome. -/
theorem Applies.eq_apply {result : Applied} (h : Applies c data result)
    (hkeys : (data.map Prod.fst).Nodup) : result = c.apply data := by
  cases h with
  | unknown hnames => exact (apply_of_not_namesFields hnames).symm
  | @refused before rest f d e after hdata hnames hbefore hd =>
    subst hdata
    rw [List.map_append] at hkeys
    obtain ⟨-, hrest⟩ := List.forall_mem_append.mp hnames
    rw [hbefore.apply_append hkeys.of_append_left hrest,
      apply_cons (List.forall_mem_cons.mp hrest).2, hd]
  | applied h =>
    have hnil : NamesFields [] := fun _ hp => absurd hp List.not_mem_nil
    have happend := h.apply_append hkeys hnil
    rw [List.append_nil, apply_nil] at happend
    exact happend.symm

/-- Data are applied as a whole if each key is the name of a field that takes its value. -/
def IsAccepted (data : List (WideText × Datum)) : Prop :=
  ∀ p ∈ data, ∃ f : Field, f.name = p.1 ∧ ∃ v, coerce f p.2 = .ok v

theorem Sets.isAccepted {after : Config} (h : Sets c data after) : IsAccepted data := by
  rintro ⟨k, d⟩ hp
  obtain ⟨f, rfl⟩ := h.names _ hp
  exact ⟨f, rfl, _, h.named f d hp⟩

theorem error_apply_eq_none_iff (hkeys : (data.map Prod.fst).Nodup) :
    (c.apply data).error = none ↔ IsAccepted data := by
  have happlies := applies_apply (c := c) hkeys
  generalize c.apply data = result at happlies
  cases happlies with
  | unknown hnames =>
    refine iff_of_false (Option.some_ne_none _) fun h => hnames fun p hp => ?_
    obtain ⟨f, hf, -⟩ := h p hp
    exact ⟨f, hf⟩
  | @refused before rest f d e after hdata _ _ hd =>
    refine iff_of_false (Option.some_ne_none _) fun h => ?_
    have hp : (f.name, d) ∈ data := hdata ▸ List.mem_append_right _ List.mem_cons_self
    obtain ⟨g, hg, v, hv⟩ := h _ hp
    rw [Field.name_injective hg, hd] at hv
    cases hv
  | applied h => exact iff_of_true rfl h.isAccepted

/-! ### Loading -/

theorem nodup_of_fieldsOf {entries : List (Datum × Datum)}
    (hkeys : Datum.HasDistinctStrings entries) (h : fieldsOf entries = .ok data) :
    (data.map Prod.fst).Nodup := by
  have hmap : entries.filterMap (·.1.wide?) = data.map Prod.fst := by
    have hall := forall₂_of_mapM_eq_ok h
    clear h hkeys
    induction hall with
    | nil => rfl
    | @cons p q _ _ hpq _ ih =>
      split at hpq
      · next w hw =>
        cases hpq
        rw [List.filterMap_cons, hw, ih]
        rfl
      · cases hpq
  rwa [Datum.HasDistinctStrings, hmap] at hkeys

/-- No key of a configuration file comes twice. -/
theorem nodup_of_readData {yaml : YamlReader} (hy : yaml.IsOrderly) {tree : Tree} {path : Text}
    (h : readData yaml tree path = .ok data) : (data.map Prod.fst).Nodup := by
  unfold readData at h
  split at h
  · cases h
  · cases h
  · obtain ⟨d, hd, h⟩ := bind_eq_ok_iff.mp h
    have horderly := Files.isOrderly_of_dataOfBytes hy (mapError_eq_ok_iff.mp hd)
    split at h
    · exact nodup_of_fieldsOf horderly h
    · cases h

/-- Data without repeated keys are applied in one way. A key that is no field's name leaves
everything as it was, and so does a file without data. A value that is refused leaves the fields
that are named before it with their new values and the others as they were. If nothing is refused
the named fields have their new values, whatever the order, and the others are as they were. Of the
reader of YAML it is only asked that no string is a key of a mapping twice. -/
theorem applies_iff_eq_apply (c : Config) :
    (∀ data, (data.map Prod.fst).Nodup →
      (∀ result, Applies c data result ↔ result = c.apply data) ∧
      ((c.apply data).error = none ↔ IsAccepted data) ∧
      ∀ data' : List (WideText × Datum), data'.Perm data → (c.apply data).error = none →
        c.apply data' = c.apply data) ∧
    ∀ yaml : YamlReader, yaml.IsOrderly → ∀ tree path,
      (∃ data, readData yaml tree path = .ok data ∧ Applies c data (c.load yaml tree path)) ∨
      ∃ e, readData yaml tree path = .error e ∧ c.load yaml tree path = ⟨c, some e⟩ := by
  refine ⟨fun data hkeys => ⟨fun result => ⟨fun h => h.eq_apply hkeys, ?_⟩,
    error_apply_eq_none_iff hkeys, fun data' hp hnone => ?_⟩, fun yaml hy tree path => ?_⟩
  · rintro rfl
    exact applies_apply hkeys
  · have happlies := applies_apply (c := c) hkeys
    generalize c.apply data = result at happlies hnone
    cases happlies with
    | unknown => cases hnone
    | refused => cases hnone
    | applied h =>
      have hkeys' := (hp.map Prod.fst).nodup_iff.mpr hkeys
      exact ((Applies.applied (h.of_perm hp)).eq_apply hkeys').symm
  · unfold load
    cases hr : readData yaml tree path with
    | ok data => exact .inl ⟨data, rfl, applies_apply (nodup_of_readData hy hr)⟩
    | error e => exact .inr ⟨e, rfl, rfl⟩

/-- A prefix, and directories that are no list. -/
def prefixAndDirectories : List (WideText × Datum) :=
  [(Field.functionPrefix.name, .text ['x']), (Field.includeDirs.name, .text ['s'])]

theorem namesFields_prefixAndDirectories : NamesFields prefixAndDirectories :=
  List.forall_mem_cons.mpr ⟨⟨_, rfl⟩, List.forall_mem_singleton.mpr ⟨_, rfl⟩⟩

/-- A prefix, and a truth value with its tag. -/
def taggedData : List (WideText × Datum) :=
  [(Field.functionPrefix.name, .text ['x']), (Field.strictConstants.name, .bool false)]

def taggedTree : Tree :=
  ⟨[], [], [(["c.yml".toList],
    Text.Utf8.encode "function_prefix: x\nstrict_constants: !!bool false\n".toList)], []⟩

/-- A reader for that file. -/
def taggedReader : YamlReader := fun _ => .ok (.map (taggedData.map fun p => (.ofWide p.1, p.2)))

theorem isOrderly_taggedReader : taggedReader.IsOrderly := by
  rintro bytes d ⟨⟩
  have hstrings : (taggedData.map fun p => (Datum.ofWide p.1, p.2)).filterMap (·.1.wide?) =
      taggedData.map Prod.fst := rfl
  rw [Datum.IsOrderly, Datum.HasDistinctStrings, hstrings]
  decide

theorem readData_taggedTree :
    readData taggedReader taggedTree "c.yml".toList = .ok taggedData := by
  have hread : taggedTree.read? "c.yml".toList = some (Text.Utf8.encode
      "function_prefix: x\nstrict_constants: !!bool false\n".toList) := by decide +kernel
  have hopen : taggedTree.unreadable? "c.yml".toList = none := by decide +kernel
  have hyaml : Files.isYaml "c.yml".toList = true := by decide +kernel
  simp only [readData, hread, hopen, Files.dataOfBytes, hyaml, if_true]
  rfl

/-- One value is refused after another was set, and a file is read whose values are all taken. -/
theorem apply_prefixAndDirectories :
    (prefixAndDirectories.map Prod.fst).Nodup ∧
    (⟨standard.set .functionPrefix (.text ['x']),
      some (.notTexts .includeDirs (.text ['s']))⟩ : Applied) =
        standard.apply prefixAndDirectories ∧
    taggedReader.IsOrderly ∧
    Applies standard taggedData (standard.load taggedReader taggedTree "c.yml".toList) := by
  have hkeys : (prefixAndDirectories.map Prod.fst).Nodup := by decide
  have hbefore : Sets standard (prefixAndDirectories.take 1)
      (standard.set .functionPrefix (.text ['x'])) := Sets.nil.cons List.not_mem_nil rfl
  refine ⟨hkeys, (((applies_iff_eq_apply standard).1 _ hkeys).1 _).mp
    (.refused rfl namesFields_prefixAndDirectories hbefore rfl), isOrderly_taggedReader, ?_⟩
  have hload := (applies_iff_eq_apply standard).2 _ isOrderly_taggedReader taggedTree
    "c.yml".toList
  rw [readData_taggedTree] at hload
  rcases hload with ⟨data, hdata, happlies⟩ | ⟨e, he, -⟩
  · cases hdata
    exact happlies
  · cases he

/-- Refused data leave a field with a new value. -/
theorem refused_prefixAndDirectories :
    (prefixAndDirectories.map Prod.fst).Nodup ∧
    ((standard.apply prefixAndDirectories).error.map LoadError.message =
      some "include_dirs must be a list of strings, got 's'".toList) ∧
    (standard.apply prefixAndDirectories).config.get .functionPrefix ≠
      standard.get .functionPrefix := by
  have happly : standard.apply prefixAndDirectories =
      ⟨standard.set .functionPrefix (.text ['x']),
        some (.notTexts .includeDirs (.text ['s']))⟩ := by
    have hrest := (List.forall_mem_cons.mp namesFields_prefixAndDirectories).2
    rw [prefixAndDirectories, apply_cons hrest]
    exact apply_cons fun _ hp => absurd hp List.not_mem_nil
  rw [happly]
  refine ⟨by decide, by decide, fun hget => ?_⟩
  cases Datum.text.inj hget

end Config
end HeaderBindings
