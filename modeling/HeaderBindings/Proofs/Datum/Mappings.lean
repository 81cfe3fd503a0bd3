import HeaderBindings.Files.Data
import HeaderBindings.Proofs.Steps
import Mathlib.Data.List.Nodup

/-!
# Keys of mappings that are read

A reader puts the entries of a mapping one by one where an entry of the same key stands or at the
end. So no two keys of a mapping in a data file are the same, in either notation. Of a reader of
YAML that is given no more is asked than that no string is a key twice.
-/
namespace HeaderBindings.Datum

/-- A string is known by its code points. -/
theorem eq_ofWide_of_wide? {d : Datum} {w : WideText} (h : d.wide? = some w) : d = ofWide w := by
  cases d with
  | text t =>
    cases h
    unfold ofWide
    split
    · next u hu =>
      rw [WideText.toText?_ofText] at hu
      cases hu
      rfl
    · next hnone =>
      rw [WideText.toText?_ofText] at hnone
      cases hnone
  | broken b =>
    cases h
    unfold ofWide
    split
    · next u hu =>
      rw [b.noText] at hu
      cases hu
    · rfl
  | _ => cases h

/-- No two entries have the same key. -/
def HasDistinctKeys {α : Type} (es : List (Datum × α)) : Prop := (es.map (·.1.key?)).Nodup

theorem HasDistinctKeys.nil {α : Type} : HasDistinctKeys ([] : List (Datum × α)) :=
  List.nodup_nil

theorem mem_keys_put {α : Type} {key : Datum} {value : α} {es : List (Datum × α)}
    {k : Option Key} (h : k ∈ (put key value es).map (·.1.key?)) :
    k = key.key? ∨ k ∈ es.map (·.1.key?) := by
  induction es with
  | nil => simpa [put] using h
  | cons e es ih =>
    rw [put] at h
    split_ifs at h with he
    · exact .inr h
    · rcases List.mem_cons.mp h with rfl | h
      · exact .inr List.mem_cons_self
      · exact (ih h).imp_right (List.mem_cons_of_mem _)

theorem HasDistinctKeys.put {α : Type} {es : List (Datum × α)} (h : HasDistinctKeys es)
    (key : Datum) (value : α) : HasDistinctKeys (put key value es) := by
  induction es with
  | nil => exact List.nodup_singleton _
  | cons e es ih =>
    obtain ⟨he, hes⟩ := List.nodup_cons.mp h
    rw [Datum.put]
    split_ifs with hk
    · exact h
    · refine List.nodup_cons.mpr ⟨fun hm => ?_, ih hes⟩
      exact (mem_keys_put hm).elim hk he

/-- No string is the key of two entries. -/
def HasDistinctStrings {α : Type} (es : List (Datum × α)) : Prop :=
  (es.filterMap (·.1.wide?)).Nodup

theorem HasDistinctKeys.strings {α : Type} {es : List (Datum × α)} (h : HasDistinctKeys es) :
    HasDistinctStrings es := by
  have hpairs : es.Pairwise fun e e' => e.1.key? ≠ e'.1.key? := List.pairwise_map.mp h
  refine List.pairwise_filterMap.mpr (hpairs.imp ?_)
  rintro e e' hne w hw w' hw' rfl
  exact hne (congrArg key? ((eq_ofWide_of_wide? hw).trans (eq_ofWide_of_wide? hw').symm))

/-- In a mapping no string is a key twice; other data have no keys. -/
def IsOrderly : Datum → Prop
  | .map es => HasDistinctStrings es
  | _ => True

theorem isOrderly_ofWide (w : WideText) : (ofWide w).IsOrderly := by
  unfold ofWide
  split <;> trivial

/-! ### JSON -/

theorem Json.hasDistinctKeys_of_readMembers {room fuel : ℕ} {before es : List (Datum × Datum)}
    {t r : Text} (hbefore : HasDistinctKeys before)
    (h : Json.readMembers room fuel before t = .ok (es, r)) : HasDistinctKeys es := by
  induction fuel generalizing before t with
  | zero => cases h
  | succ fuel ih =>
    rw [Json.readMembers.eq_def] at h
    dsimp only at h
    split at h
    · obtain ⟨⟨key, r'⟩, -, h⟩ := bind_eq_ok_iff.mp h
      dsimp only at h
      split at h
      · obtain ⟨⟨d, r''⟩, -, h⟩ := bind_eq_ok_iff.mp h
        dsimp only at h
        split at h
        · cases h
          exact hbefore.put _ _
        · exact ih (hbefore.put _ _) h
        · cases h
      · cases h
    · cases h

theorem Json.isOrderly_of_readNumber {start t r : Text} {negative : Bool} {d : Datum}
    (h : Json.readNumber start negative t = .ok (d, r)) : d.IsOrderly := by
  unfold Json.readNumber at h
  dsimp only at h
  cases negative
  all_goals
    split_ifs at h
    all_goals cases h <;> trivial

theorem Json.isOrderly_of_mem_words {p : String × Datum} (h : p ∈ Json.words) :
    p.2.IsOrderly := by
  simp only [Json.words, List.mem_cons, List.not_mem_nil, or_false] at h
  rcases h with rfl | rfl | rfl | rfl | rfl | rfl <;> trivial

theorem Json.isOrderly_of_readValue {room fuel : ℕ} {t r : Text} {d : Datum}
    (h : Json.readValue room fuel t = .ok (d, r)) : d.IsOrderly := by
  cases fuel with
  | zero => cases h
  | succ fuel =>
    rw [Json.readValue.eq_def] at h
    dsimp only at h
    split at h
    · obtain ⟨p, -, h⟩ := map_eq_ok_iff.mp h
      cases h
      exact isOrderly_ofWide p.1
    · split at h
      · cases h
      · cases h
        trivial
      · obtain ⟨p, -, h⟩ := map_eq_ok_iff.mp h
        cases h
        trivial
    · split at h
      · cases h
      · cases h
        exact HasDistinctKeys.nil.strings
      · obtain ⟨p, hp, h⟩ := map_eq_ok_iff.mp h
        cases h
        exact (Json.hasDistinctKeys_of_readMembers .nil hp).strings
    · split at h
      · next p hp =>
        cases h
        obtain ⟨w, hw, hp⟩ := List.exists_of_findSome?_eq_some hp
        obtain ⟨r', -, hp⟩ := Option.map_eq_some_iff.mp hp
        have hd : w.2 = d := congrArg Prod.fst hp
        exact hd ▸ Json.isOrderly_of_mem_words hw
      · split at h <;> exact Json.isOrderly_of_readNumber h

theorem Json.isOrderly_of_read {t : Text} {d : Datum} (h : Json.read t = .ok d) :
    d.IsOrderly := by
  unfold Json.read at h
  split_ifs at h
  · cases h
  · obtain ⟨⟨d', r⟩, hd, h⟩ := bind_eq_ok_iff.mp h
    dsimp only at h
    split_ifs at h
    · cases h
      exact Json.isOrderly_of_readValue hd
    · cases h

/-! ### YAML -/

theorem Yaml.hasDistinctKeys_mapOf (pairs : List (Datum × Datum)) :
    HasDistinctKeys (Yaml.mapOf pairs) := by
  have hput (es : List (Datum × Datum)) (h : HasDistinctKeys es) :
      HasDistinctKeys (pairs.foldl (fun es p => Datum.put p.1 p.2 es) es) := by
    induction pairs generalizing es with
    | nil => exact h
    | cons p pairs ih => exact ih _ (h.put p.1 p.2)
  exact hput [] .nil

theorem Yaml.isOrderly_of_meaning {t : Text} {d : Datum}
    (h : Yaml.Scalar.meaning t = .ok (.datum d)) : d.IsOrderly := by
  unfold Yaml.Scalar.meaning at h
  split_ifs at h
  · cases h
    trivial
  · cases h
    trivial
  · cases h
    trivial
  · cases h
  · cases h
  · split at h
    · cases h
      trivial
    · obtain ⟨n, -, h⟩ := map_eq_ok_iff.mp h
      cases h
      trivial
    · split at h
      · cases h
      · cases h
        trivial
    · cases h
      trivial

theorem Yaml.isOrderly_of_scalarDatum {isKey isPlain : Bool} {tag : Option Text} {t : Text}
    {d : Datum} (h : Yaml.scalarDatum isKey tag t isPlain = .ok d) : d.IsOrderly := by
  unfold Yaml.scalarDatum at h
  split at h
  · split_ifs at h
    · cases h
      trivial
    · cases h
      trivial
  · cases isPlain with
    | false =>
      cases h
      trivial
    | true =>
      obtain ⟨m, hm, h⟩ := bind_eq_ok_iff.mp h
      cases m with
      | datum d' =>
        cases h
        exact Yaml.isOrderly_of_meaning hm
      | merge => cases h
      | value =>
        cases isKey with
        | false => cases h
        | true =>
          cases h
          trivial

theorem Yaml.isOrderly_of_datumOf {depth : ℕ} {n : Yaml.Merged} {d : Datum}
    (h : Yaml.datumOf depth n = .ok d) : d.IsOrderly := by
  cases n with
  | impossible => cases h
  | scalar tag t isPlain =>
    exact Yaml.isOrderly_of_scalarDatum (mapError_eq_ok_iff.mp h)
  | sequence tag items =>
    rw [Yaml.datumOf] at h
    split_ifs at h
    obtain ⟨ds, -, h⟩ := map_eq_ok_iff.mp h
    cases h
    trivial
  | mapping tag entries =>
    rw [Yaml.datumOf] at h
    split_ifs at h
    obtain ⟨es, -, h⟩ := map_eq_ok_iff.mp h
    cases h
    exact (Yaml.hasDistinctKeys_mapOf es).strings

theorem Yaml.isOrderly_of_read {t : Text} {d : Datum} (h : Yaml.read t = .ok d) :
    d.IsOrderly := by
  unfold Yaml.read at h
  split_ifs at h
  · obtain ⟨n?, -, h⟩ := bind_eq_ok_iff.mp h
    cases n? with
    | none =>
      cases h
      trivial
    | some n => exact Yaml.isOrderly_of_datumOf (mapError_eq_ok_iff.mp h)

end HeaderBindings.Datum

namespace HeaderBindings.Files

open Datum (HasDistinctKeys IsOrderly)

/-- In no mapping that a reader gives a string is a key twice. -/
def YamlReader.IsOrderly (yaml : YamlReader) : Prop :=
  ∀ bytes d, yaml bytes = .ok d → d.IsOrderly

theorem isOrderly_standard : YamlReader.standard.IsOrderly := by
  intro bytes d h
  obtain ⟨t, -, h⟩ := bind_eq_ok_iff.mp h
  exact Datum.Yaml.isOrderly_of_read (mapError_eq_ok_iff.mp h)

theorem isOrderly_of_dataOfBytes {yaml : YamlReader} (hy : yaml.IsOrderly) {path : Text}
    {bytes : Text.Bytes} {d : Datum} (h : dataOfBytes yaml path bytes = .ok d) : d.IsOrderly := by
  unfold dataOfBytes at h
  split_ifs at h
  · obtain ⟨d', hd, h⟩ := bind_eq_ok_iff.mp h
    cases h
    split_ifs
    · exact HasDistinctKeys.nil.strings
    · exact hy bytes d' hd
  · obtain ⟨t, -, h⟩ := bind_eq_ok_iff.mp h
    exact Datum.Json.isOrderly_of_read (mapError_eq_ok_iff.mp h)

end HeaderBindings.Files
