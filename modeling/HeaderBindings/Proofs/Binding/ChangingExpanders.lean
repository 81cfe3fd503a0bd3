import HeaderBindings.Proofs.Binding.Endings

/-!
# Runs whose expander changes

A preprocessor may answer differently after other runs of it, so each header of a run may have an
expander of its own. Such a run fails as one of its headers does with the expander that it has,
unless a collision cannot be reported.
-/
namespace HeaderBindings.Binding

open Preprocessor (Expander Invocation)

namespace Generator

/-- A generator with another expander. -/
def under (g : Generator) (x : Expander) : Generator := { g with expander := x }

variable {g : Generator} {tree : Files.Tree} {expanders : List Invocation → Expander}

/-- A run with one expander for all headers. -/
theorem runWith_const (g : Generator) (tree : Files.Tree) (headers : List Text) :
    g.runWith (fun _ => g.expander) tree headers = g.run tree headers := rfl

/-- What an account cannot take is the failure of an offer or a collision that cannot be reported.
-/
theorem failure_of_after {o : Offer} {a : Account} {e : Failure} (h : o.after a = .error e) :
    e = .unwritable ∨ o.failure = some e := by
  unfold Offer.after at h
  split_ifs at h
  · split at h
    · cases h
    · next found hfound =>
      cases h
      exact .inr hfound
  · exact .inl (Except.error.inj h).symm

/-- Steps over headers fail as one of them does, whatever was gathered before. -/
theorem failure_of_steps {a : Account} {c : Context} (h : a.ShownBy c) {headers : List Text}
    {e : Failure}
    (he : (Progress.steps (fun c header => (g.under (expanders c.invocations)).addHeader tree c
      header) c headers).failure = some e) :
    e = .unwritable ∨ ∃ past, ∃ header ∈ headers,
      ((g.under (expanders past)).offer tree header).failure = some e := by
  induction headers generalizing a c with
  | nil => cases he
  | cons header headers ih =>
    have hmet := metBy_addHeader (g.under (expanders c.invocations)) tree h header
    have hafter := account_eq_after (g.under (expanders c.invocations)) tree a header
    rw [Progress.steps] at he
    generalize (g.under (expanders c.invocations)).addHeader tree c header = p at hmet he
    generalize (g.under (expanders c.invocations)).account tree a header = x at hmet hafter
    cases hmet with
    | going hshown =>
      rcases ih hshown he with hw | ⟨past, k, hk, hfirst⟩
      · exact .inl hw
      · exact .inr ⟨past, k, List.mem_cons_of_mem _ hk, hfirst⟩
    | stopped _ =>
      cases he
      exact (failure_of_after hafter.symm).imp_right fun hfirst =>
        ⟨c.invocations, header, List.mem_cons_self, hfirst⟩

/-- A run fails as one of its headers does with the expander after some preprocessor runs, unless a
collision cannot be reported. -/
theorem exists_of_runWith_eq_error {headers : List Text} {e : Failure}
    (h : (g.runWith expanders tree headers).result = .error e) :
    e = .unwritable ∨ ∃ past, ∃ header ∈ headers,
      ((g.under (expanders past)).offer tree header).failure = some e := by
  refine failure_of_steps Account.shownBy_empty ?_
  unfold runWith at h
  dsimp only at h
  split at h
  · cases h
  · next c failure hsteps =>
    cases h
    exact congrArg Progress.failure hsteps

end Generator
end HeaderBindings.Binding
