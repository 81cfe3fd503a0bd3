import HeaderBindings.Binding.Register
import HeaderBindings.Constant.Table
import Mathlib.Data.List.Nodup

/-!
# Stores in which the first of a key wins

A list is reduced to the elements whose key no earlier element has. A constant table and a register
of bindings are such stores: both hold exactly the first elements of what they were given, and the
store of two lists one after the other is the store of the first, followed by what is new in the
store of the second.
-/
namespace HeaderBindings.FirstWins

section Lists
variable {α β κ : Type} [DecidableEq κ] (key : α → κ)

/-- The elements whose key no earlier element has. -/
def firsts : List α → List α
  | [] => []
  | a :: as => a :: (firsts as).filter (key · ≠ key a)

/-- The elements whose key is not among those of the other list. -/
def unseen (seen as : List α) : List α := as.filter (key · ∉ seen.map key)

/-- How many elements have their key in the other list. -/
def common (seen as : List α) : ℕ := as.countP (key · ∈ seen.map key)

/-- Adds an element at the end, unless its key is there. -/
def addNew (as : List α) (a : α) : List α := if key a ∈ as.map key then as else as ++ [a]

@[simp] theorem unseen_nil (as : List α) : unseen key [] as = as := by simp [unseen]

theorem mem_keys_firsts (as : List α) (k : κ) :
    k ∈ (firsts key as).map key ↔ k ∈ as.map key := by
  induction as with
  | nil => rfl
  | cons a as ih =>
    simp only [List.mem_map] at ih
    by_cases h : k = key a
    · simp [firsts, h]
    · have hf : (∃ b, (b ∈ firsts key as ∧ key b ≠ key a) ∧ key b = k) ↔
          ∃ b ∈ firsts key as, key b = k := by
        constructor
        · rintro ⟨b, ⟨hb, _⟩, rfl⟩; exact ⟨b, hb, rfl⟩
        · rintro ⟨b, hb, rfl⟩; exact ⟨b, ⟨hb, h⟩, rfl⟩
      simp only [firsts, List.map_cons, List.mem_cons, h, false_or, List.mem_map,
        List.mem_filter, decide_eq_true_eq, hf, ih]

theorem nodup_keys_firsts (as : List α) : ((firsts key as).map key).Nodup := by
  induction as with
  | nil => exact List.nodup_nil
  | cons a as ih =>
    have hs : (((firsts key as).filter (key · ≠ key a)).map key).Sublist
        ((firsts key as).map key) := List.filter_sublist.map key
    refine List.nodup_cons.mpr ⟨?_, ih.sublist hs⟩
    simp [List.mem_filter]

theorem firsts_append (as bs : List α) :
    firsts key (as ++ bs) = firsts key as ++ unseen key as (firsts key bs) := by
  induction as with
  | nil => simp [firsts]
  | cons a as ih =>
    simp only [List.cons_append, firsts, ih, unseen, List.filter_append, List.filter_filter,
      List.map_cons, List.mem_cons, not_or]
    congr 2
    exact List.filter_congr (fun b _ => by simp)

theorem firsts_map (f : β → α) (bs : List β) :
    firsts key (bs.map f) = (firsts (fun b => key (f b)) bs).map f := by
  induction bs with
  | nil => rfl
  | cons b bs ih => simp [firsts, ih, List.filter_map, Function.comp_def]

/-- Only the keys of the other list matter. -/
theorem unseen_congr {seen seen' : List α}
    (h : ∀ k, k ∈ seen.map key ↔ k ∈ seen'.map key) (as : List α) :
    unseen key seen as = unseen key seen' as :=
  List.filter_congr (fun a _ => by simp only [h])

theorem length_unseen (seen as : List α) :
    (unseen key seen as).length + common key seen as = as.length := by
  have h := List.length_eq_countP_add_countP (fun a => decide (key a ∈ seen.map key)) (l := as)
  have hf : (unseen key seen as).length =
      as.countP (fun a => decide ¬decide (key a ∈ seen.map key) = true) := by
    rw [unseen, ← List.countP_eq_length_filter]
    simp
  rw [common]
  omega

/-- The first of a list is new, or it was seen and changes nothing. -/
theorem unseen_firsts_cons (seen : List α) (a : α) (as : List α) :
    unseen key seen (firsts key (a :: as)) =
      if key a ∈ seen.map key then unseen key seen (firsts key as)
      else a :: unseen key (a :: seen) (firsts key as) := by
  split_ifs with h
  · have hc : ∀ b, (decide (key b ∉ seen.map key) && decide (key b ≠ key a)) =
        decide (key b ∉ seen.map key) := by
      intro b
      by_cases hb : key b = key a
      · simp only [hb, h, not_true_eq_false, decide_false, Bool.false_and]
      · simp [hb]
    simp only [firsts, unseen, List.filter_cons, h, not_true_eq_false, decide_false,
      Bool.false_eq_true, if_false, List.filter_filter, hc]
  · simp only [firsts, unseen, List.filter_cons, h, not_false_eq_true, decide_true, if_true,
      List.filter_filter, List.map_cons, List.mem_cons, not_or]
    exact congrArg _ (List.filter_congr fun b _ => by simp [Bool.and_comm])

theorem foldl_addNew (seen as : List α) :
    as.foldl (addNew key) seen = seen ++ unseen key seen (firsts key as) := by
  induction as generalizing seen with
  | nil => simp [firsts, unseen]
  | cons a as ih =>
    rw [List.foldl_cons, ih, addNew, unseen_firsts_cons]
    split_ifs with h
    · rfl
    · have hkeys (k : κ) : k ∈ (seen ++ [a]).map key ↔ k ∈ (a :: seen).map key := by
        simp [or_comm]
      rw [List.append_assoc, List.singleton_append, unseen_congr key hkeys]

theorem firsts_concat (as : List α) (a : α) :
    firsts key (as ++ [a]) = addNew key (firsts key as) a := by
  have h (bs : List α) : bs.foldl (addNew key) [] = firsts key bs := by
    rw [foldl_addNew, unseen_nil, List.nil_append]
  rw [← h, ← h, List.foldl_append, List.foldl_cons, List.foldl_nil]

/-- The first of a key is the one that is found first. -/
theorem find?_firsts (as : List α) (k : κ) :
    (firsts key as).find? (key · = k) = as.find? (key · = k) := by
  induction as with
  | nil => rfl
  | cons a as ih =>
    by_cases ha : key a = k
    · simp [firsts, ha]
    · have hsame (b : α) : (decide (key b ≠ key a) = true ∧ decide (key b = k) = true) ↔
          key b = k := by
        simp only [decide_eq_true_eq, and_iff_right_iff_imp]
        rintro rfl
        exact Ne.symm ha
      simp only [firsts, List.find?_cons, ha, decide_false, List.find?_filter, hsame, ih]

theorem firsts_eq_self {as : List α} (h : (as.map key).Nodup) : firsts key as = as := by
  induction as with
  | nil => rfl
  | cons a as ih =>
    obtain ⟨ha, has⟩ := List.nodup_cons.mp h
    rw [firsts, ih has]
    refine congrArg (a :: ·) (List.filter_eq_self.mpr fun b hb => ?_)
    simpa using fun he : key b = key a => ha (he ▸ List.mem_map_of_mem hb)

/-- The first of a key comes before the first of a later one. -/
theorem pairwise_firsts (as : List α) : (firsts key as).Pairwise fun a b =>
    ∃ before after, as = before ++ a :: after ∧ ∀ c ∈ before ++ [a], key c ≠ key b := by
  induction as with
  | nil => exact .nil
  | cons a as ih =>
    refine List.pairwise_cons.mpr ⟨fun b hb => ⟨[], as, rfl, ?_⟩, ?_⟩
    · have hne : key b ≠ key a := by simpa using (List.mem_filter.mp hb).2
      simpa using hne.symm
    · refine (ih.filter _).imp_of_mem fun {b c} _ hc => ?_
      rintro ⟨before, after, rfl, hbefore⟩
      have hne : key c ≠ key a := by simpa using (List.mem_filter.mp hc).2
      exact ⟨a :: before, after, rfl, List.forall_mem_cons.mpr ⟨hne.symm, hbefore⟩⟩

end Lists

/-! ### Constant tables -/

section Tables
open Constant

theorem add_definitions (t : Table) (d : Definition) :
    (t.add d).1.definitions = addNew Definition.name t.definitions d := by
  unfold Table.add addNew
  split
  · next first h =>
    have hm : d.name ∈ t.definitions.map Definition.name := by
      have hn : first.name = d.name := by simpa using List.find?_some h
      exact hn ▸ List.mem_map_of_mem (List.mem_of_find?_eq_some h)
    simp [hm]
  · next h =>
    have hm : d.name ∉ t.definitions.map Definition.name := by
      simpa [Table.find?] using h
    simp [hm]

theorem merge_eq_foldl (t : Table) (ds : List Definition) :
    (t.merge ds).1 = ds.foldl (fun t d => (t.add d).1) t := by
  induction ds generalizing t with
  | nil => rfl
  | cons d ds ih => simp only [Table.merge, List.foldl_cons, ih]

theorem merge_append (t : Table) (ds es : List Definition) :
    (t.merge (ds ++ es)).1 = ((t.merge ds).1.merge es).1 := by
  simp only [merge_eq_foldl, List.foldl_append]

theorem merge_definitions (t : Table) (ds : List Definition) :
    (t.merge ds).1.definitions =
      t.definitions ++ unseen Definition.name t.definitions (firsts Definition.name ds) := by
  rw [← foldl_addNew, merge_eq_foldl]
  induction ds generalizing t with
  | nil => rfl
  | cons d ds ih => rw [List.foldl_cons, List.foldl_cons, ih, add_definitions]

/-- Every definition ends as an entry or as a collision. -/
theorem size_merge (t : Table) (ds : List Definition) :
    (t.merge ds).1.size + (t.merge ds).1.collisions.length =
      t.size + t.collisions.length + ds.length := by
  induction ds generalizing t with
  | nil => rfl
  | cons d ds ih =>
    have ha := Table.size_add t d
    have hi := ih (t.add d).1
    simp only [Table.merge, List.length_cons]
    omega

/-- The names that are counted are those by which the table grows. -/
theorem count_merge (t : Table) (ds : List Definition) :
    (t.merge ds).1.size = t.size + (t.merge ds).2 := by
  induction ds generalizing t with
  | nil => rfl
  | cons d ds ih =>
    have hadd : (t.add d).1.size = t.size + if (t.add d).2 then 1 else 0 := by
      unfold Table.add Table.size
      split <;> simp
    simp only [Table.merge, ih, hadd]
    split_ifs <;> omega

end Tables

/-! ### Registers -/

section Registers
open Binding

theorem add_functions (r : Register) (f : BoundFunction) :
    (r.add f).1.functions = addNew BoundFunction.name r.functions f := by
  unfold Register.add addNew
  split
  · next first h =>
    have hm : f.name ∈ r.functions.map BoundFunction.name := by
      have hn : first.name = f.name := by simpa using List.find?_some h
      exact hn ▸ List.mem_map_of_mem (List.mem_of_find?_eq_some h)
    simp [hm]
  · next h =>
    have hm : f.name ∉ r.functions.map BoundFunction.name := by
      simpa [Register.find?] using h
    simp [hm]

theorem foldl_add_functions (r : Register) (fs : List BoundFunction) :
    (fs.foldl (fun r f => (r.add f).1) r).functions =
      r.functions ++ unseen BoundFunction.name r.functions (firsts BoundFunction.name fs) := by
  rw [← foldl_addNew]
  induction fs generalizing r with
  | nil => rfl
  | cons f fs ih => rw [List.foldl_cons, List.foldl_cons, ih, add_functions]

end Registers
end HeaderBindings.FirstWins
