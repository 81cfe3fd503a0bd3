import HeaderBindings.Proofs.Binding.Concatenation
import HeaderBindings.Proofs.Text.Pieces

/-!
# Names in results

A declaration is found only with a name, and only names are candidates for constants. Therefore the
short name of a binding of a run holds word characters alone, and a run exports its constants under
names.
-/
namespace HeaderBindings

open Text

/-! ### Names in headers -/

namespace Header.Declaration

theorem isName_of_read? {mark t rest : Text} {line : ℕ} {d : Declaration}
    (h : read? mark line t = some (d, rest)) : isName d.name = true := by
  simp only [read?, Option.bind_eq_bind, Option.bind_eq_some_iff, Option.some.injEq,
    Prod.mk.injEq] at h
  obtain ⟨r₁, -, r₂, -, r₃, -, ⟨name, r₄⟩, hname, r₅, -, ⟨body, r₆⟩, -, arguments, -, rfl, -⟩ := h
  exact isName_of_readName? hname

theorem isName_of_mem_scanFrom {mark t : Text} {inWord : Bool} {line : ℕ} {d : Declaration}
    (h : d ∈ scanFrom mark inWord line t) : isName d.name = true := by
  fun_induction scanFrom mark inWord line t with
  | case1 => cases h
  | case2 inWord line c r first rest hread ih =>
    rcases List.mem_cons.mp h with rfl | h
    · split_ifs at hread with hc
      exact isName_of_read? hread
    · exact ih h
  | case3 inWord line c r hread ih => exact ih h

end Header.Declaration

theorem Constant.isName_of_mem_candidates {t name : Text} (h : name ∈ Constant.candidates t) :
    isName name = true := by
  obtain ⟨line, -, hl⟩ := Constant.mem_candidates.mp h
  exact Constant.isName_of_candidate? hl

/-! ### Names in results -/

namespace Binding
variable {g : Generator} {tree : Files.Tree}

theorem Generator.isName_of_mem_declared {header : Text} {d : Header.Declaration}
    (h : d ∈ g.declared tree header) : isName d.name = true := by
  unfold declared at h
  split at h
  · exact Header.Declaration.isName_of_mem_scanFrom (List.mem_filter.mp h).1
  · cases h

theorem Generator.isName_of_mem_extracted {header : Text} {e : Text × Constant.Value}
    (h : e ∈ g.extracted tree header) : isName e.1 = true := by
  unfold extracted at h
  split at h
  · next text ht =>
    split at h
    · next pairs hp =>
      have hm : e.1 ∈ pairs.map Prod.fst := List.mem_map_of_mem h
      exact Constant.isName_of_mem_candidates ((sublist_extract hp).mem hm)
    · cases h
  · cases h

theorem Binds.isWordText_name {source : Text} {d : Header.Declaration} {f : BoundFunction}
    (h : Binds g source d f) (hd : isName d.name = true) : IsWordText f.name := by
  obtain ⟨p, -, hp⟩ := h.short
  intro c hc
  refine IsWordText.of_isName hd c ?_
  rw [← h.native, hp]
  exact List.mem_append_right p hc

section Results
variable {headers : List Text} {log : List Log.Event} {r : Result}
  (h : g.run tree headers = ⟨log, .ok r⟩)
include h

/-- The names of bindings hold word characters only. -/
theorem isWordText_name_of_run : ∀ f ∈ r.bindings, IsWordText f.name := by
  obtain ⟨a, ha, rfl, -⟩ := Generator.run_ok g tree h
  have hc := Generator.covers_run ha
  intro f hf
  have hkey : f.name ∈ (boundBy a.trials).map BoundFunction.name := by
    rw [← FirstWins.mem_keys_firsts, ← Account.functions_register]
    exact List.mem_map_of_mem hf
  -- a register keeps bindings of its trials, so the name is that of a declaration
  obtain ⟨f', hf', hname⟩ := List.mem_map.mp hkey
  obtain ⟨t, ht, hbound⟩ := List.mem_filterMap.mp hf'
  have hresult : t.result = .ok f' := by
    cases hr : t.result with
    | error e => rw [hr] at hbound; cases hbound
    | ok f => rw [hr] at hbound; cases hbound; rfl
  have hdeclared : (t.source, t.declaration) ∈
      headers.flatMap fun header => (g.declared tree header).map (header, ·) := by
    rw [← hc.trials]
    exact List.mem_map_of_mem ht
  obtain ⟨header, -, hd⟩ := List.mem_flatMap.mp hdeclared
  obtain ⟨d, hd, hpair⟩ := List.mem_map.mp hd
  obtain ⟨-, rfl⟩ := Prod.mk.inj hpair
  rw [← hname]
  exact (hc.sound t ht f' hresult).isWordText_name (Generator.isName_of_mem_declared hd)

/-- The names of constants are names. -/
theorem isName_of_mem_constants : ∀ e ∈ r.constants, isName e.1 = true := by
  obtain ⟨a, ha, rfl, -⟩ := Generator.run_ok g tree h
  have hc := Generator.covers_run ha
  intro e he
  have hkey : e.1 ∈ (headers.flatMap (g.extracted tree)).map Prod.fst := by
    rw [← FirstWins.mem_keys_firsts, ← hc.definitions, ← Account.entries_table]
    exact List.mem_map_of_mem he
  obtain ⟨e', he', hname⟩ := List.mem_map.mp hkey
  obtain ⟨header, -, hx⟩ := List.mem_flatMap.mp he'
  rw [← hname]
  exact Generator.isName_of_mem_extracted hx

/-- What is exported are the constants, under the name that the generator gives them. -/
theorem exported_of_run : ∀ t ∈ r.exported, t = ⟨g.tableName, r.constants⟩ := by
  obtain ⟨a, -, rfl, -⟩ := Generator.run_ok g tree h
  intro t ht
  simp only [Generator.resultOf] at ht ⊢
  split_ifs at ht
  · cases ht
  · exact (Option.mem_some.mp ht).symm

end Results
end Binding
end HeaderBindings
