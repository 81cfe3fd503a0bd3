import HeaderBindings.Proofs.Binding.Concatenation
import HeaderBindings.Proofs.Binding.Declarations
import HeaderBindings.Proofs.Constant.Extraction
import HeaderBindings.Proofs.Files.Tree

/-!
# What ends a run

Where declarations never end a run and an expander does no worse than fail for a header that is
there, what ends a run is a header that is not there, cannot be asked for or cannot be read, a
failure of the expander where constants are required, expansions that are not as many as their
names, and what exceeds the limits of numbers and of their reader. The failure of a run is that of
the first header that fails.
-/
namespace HeaderBindings.Binding

/-- A generator whose expander, too, does no worse than fail, unless it is asked for a header with a
null character in its name. -/
structure Generator.IsWellShaped (g : Generator) : Prop extends g.IsTextual where
  expander : ∀ header names cause, '\x00' ∉ header →
    (g.expander header names).result = .error cause → ∃ failure, cause = .failed failure

/-- The path of a header as it is asked for. -/
def pathOf (header : Text) : Text := (Files.Path.ofText header).write

/-- Why a header that is there gives no definitions: its candidates have to be expanded and cannot
be, or there are more or fewer expansions than candidates, or one of them exhausts its reader. -/
inductive Undefined (g : Generator) (header text : Text) : Failure → Prop
  | preprocessor {failure : Preprocessor.Failure} (candidates : Constant.candidates text ≠ [])
      (required : g.constantsRequired = true)
      (failed : (g.expander header (Constant.candidates text)).result = .error (.failed failure)) :
    Undefined g header text (.preprocessor failure)
  | countMismatch {expansions : List Text} (candidates : Constant.candidates text ≠ [])
      (expanded : (g.expander header (Constant.candidates text)).result = .ok expansions)
      (length : expansions.length ≠ (Constant.candidates text).length) :
    Undefined g header text
      (.countMismatch header (Constant.candidates text).length expansions.length)
  | exhausted {expansions : List Text} {cause : Constant.Exhaustion}
      (candidates : Constant.candidates text ≠ [])
      (expanded : (g.expander header (Constant.candidates text)).result = .ok expansions)
      (length : expansions.length = (Constant.candidates text).length)
      (found : expansions.findSome? (fun e => (Constant.judge e).exhaustion?) = some cause) :
    Undefined g header text (.exhausted cause)

/-- How a header ends a run, whatever the headers before it gave: it cannot be asked for, is not
there or cannot be read, or it gives no definitions. -/
inductive EndsAt (g : Generator) (tree : Files.Tree) (header : Text) : Failure → Prop
  | unreachable {problem : Files.Problem} (path : tree.Bars (pathOf header) problem) :
    EndsAt g tree header (.unreachable ⟨problem, some (pathOf header)⟩)
  | missing (path : ∀ problem, ¬tree.Bars (pathOf header) problem)
      (content : tree.read? (pathOf header) = none) :
    EndsAt g tree header (.headerMissing (pathOf header))
  | unreadable {bytes : Text.Bytes} {problem : Files.Problem}
      (content : tree.read? (pathOf header) = some bytes)
      (lock : tree.unreadable? (pathOf header) = some problem) :
    EndsAt g tree header (.headerUnreadable (pathOf header) problem)
  | undefined {text : Text} {e : Failure} (read : Generator.readHeader tree header = .ok text)
      (cause : Undefined g header text e) : EndsAt g tree header e

namespace Generator
variable {g : Generator} {tree : Files.Tree}

theorem endsAt_of_readHeader {header : Text} {e : Failure}
    (h : readHeader tree header = .error e) : EndsAt g tree header e := by
  have he := map_eq_error_iff.mp h
  unfold headerBytes at he
  split at he
  · next cause hlook =>
    cases he
    obtain ⟨problem, path⟩ := cause
    obtain ⟨hbars, rfl⟩ := Files.Tree.look_eq_error_iff.mp hlook
    exact .unreachable hbars
  · next hlook =>
    cases he
    obtain ⟨hbars, hcontent⟩ := Files.Tree.look_eq_ok_iff.mp hlook
    exact .missing hbars hcontent
  · next bytes hlook =>
    split at he
    · next problem hlock =>
      cases he
      exact .unreadable (Files.Tree.look_eq_ok_iff.mp hlook).2 hlock
    · cases he

theorem readHeader_eq_ok_iff {header text : Text} : readHeader tree header = .ok text ↔
    ∃ bytes, tree.read? (pathOf header) = some bytes ∧ tree.unreadable? (pathOf header) = none ∧
      Header.ofBytes bytes = text := by
  constructor
  · intro h
    obtain ⟨bytes, hbytes, rfl⟩ := map_eq_ok_iff.mp h
    unfold headerBytes at hbytes
    split at hbytes
    · cases hbytes
    · cases hbytes
    · next found hlook =>
      split at hbytes
      · cases hbytes
      · next hlock =>
        cases hbytes
        exact ⟨bytes, (Files.Tree.look_eq_ok_iff.mp hlook).2, hlock, rfl⟩
  · rintro ⟨bytes, hread, hlock, rfl⟩
    have hlook := Files.Tree.look_of_read? hread
    unfold pathOf at hlook hlock
    simp only [readHeader, headerBytes, hlook, hlock, Except.map]

theorem readHeader_of_unreadable? {header : Text} {bytes : Text.Bytes} {problem : Files.Problem}
    (hread : tree.read? (pathOf header) = some bytes)
    (hlock : tree.unreadable? (pathOf header) = some problem) :
    readHeader tree header = .error (.headerUnreadable (pathOf header) problem) := by
  have hlook := Files.Tree.look_of_read? hread
  unfold pathOf at hlook hlock ⊢
  simp only [readHeader, headerBytes, hlook, hlock, Except.map]

/-- A header that is there has no null character in its name. -/
theorem not_mem_of_readHeader {header text : Text} (h : readHeader tree header = .ok text) :
    '\x00' ∉ header := by
  obtain ⟨bytes, hread, -, -⟩ := readHeader_eq_ok_iff.mp h
  exact mt Files.Tree.mem_write_ofText (Files.Tree.not_mem_of_read? hread)

/-- What a run fails with where its expander does worse than fail. -/
def failureOf? : Preprocessor.ExpansionError → Option Failure
  | .failed _ => none
  | .misuse cause => some (.misuse cause)
  | .nulInPath => some (.unreachable ⟨.nul, none⟩)
  | .unstarted message => some (.processUnstarted message)
  | .unusable message => some (.processUnusable message)

/-- A header that gives no definitions has a cause that is listed, unless its expander does worse
than fail. -/
theorem undefined_of_definitionsOf {header text : Text} {e : Failure}
    (h : g.definitionsOf header text = .error e) : Undefined g header text e ∨
      ∃ cause, (g.expander header (Constant.candidates text)).result = .error cause ∧
        failureOf? cause = some e := by
  by_cases hc : Constant.candidates text = []
  · simp only [definitionsOf, Constant.result_extract_of_nil hc] at h
    cases h
  cases hx : (g.expander header (Constant.candidates text)).result with
  | error cause =>
    simp only [definitionsOf, Constant.result_extract_of_error hc hx] at h
    cases cause with
    | failed failure =>
      dsimp only at h
      split_ifs at h with hrequired
      cases h
      exact .inl (.preprocessor hc hrequired hx)
    | _ =>
      cases h
      exact .inr ⟨_, rfl, rfl⟩
  | ok expansions =>
    simp only [definitionsOf, Constant.result_extract hc hx] at h
    by_cases hlen : expansions.length = (Constant.candidates text).length
    · rw [if_neg (not_not.mpr hlen)] at h
      cases hf : expansions.findSome? fun e => (Constant.judge e).exhaustion? with
      | none =>
        rw [hf] at h
        cases h
      | some cause =>
        rw [hf] at h
        cases h
        exact .inl (.exhausted hc hx hlen hf)
    · rw [if_pos hlen] at h
      cases h
      exact .inl (.countMismatch hc hx hlen)

theorem definitionsOf_of_undefined {header text : Text} {e : Failure}
    (h : Undefined g header text e) : g.definitionsOf header text = .error e := by
  cases h with
  | preprocessor hc hrequired hx =>
    simp only [definitionsOf, Constant.result_extract_of_error hc hx, hrequired, if_true]
  | countMismatch hc hx hlen =>
    simp only [definitionsOf, Constant.result_extract hc hx, if_pos hlen]
  | exhausted hc hx hlen hf =>
    simp only [definitionsOf, Constant.result_extract hc hx, if_neg (not_not.mpr hlen), hf]

theorem endsAt_of_definitionsOf (hg : g.IsWellShaped) {header text : Text} {e : Failure}
    (ht : readHeader tree header = .ok text) (h : g.definitionsOf header text = .error e) :
    EndsAt g tree header e := by
  have hexpander := hg.expander header (Constant.candidates text)
  rcases undefined_of_definitionsOf h with hu | ⟨cause, hx, hc⟩
  · exact .undefined ht hu
  · obtain ⟨_, rfl⟩ := hexpander cause (not_mem_of_readHeader ht) hx
    cases hc

theorem failure_offer_of_endsAt {header : Text} {e : Failure} (h : EndsAt g tree header e) :
    (g.offer tree header).failure = some e := by
  cases h with
  | @unreachable problem path =>
    have hlook : tree.look (pathOf header) = .error ⟨problem, some (pathOf header)⟩ :=
      Files.Tree.look_eq_error_iff.mpr ⟨path, rfl⟩
    unfold pathOf at hlook ⊢
    simp only [offer, readHeader, headerBytes, hlook, Except.map]
  | missing path content =>
    have hlook := Files.Tree.look_eq_ok_iff.mpr ⟨path, content⟩
    unfold pathOf at hlook ⊢
    simp only [offer, readHeader, headerBytes, hlook, Except.map]
  | unreadable content lock => simp only [offer, readHeader_of_unreadable? content lock]
  | undefined ht hu => simp only [offer, ht, definitionsOf_of_undefined hu]

/-- A header fails in the ways that are listed and in no other. -/
theorem failure_offer_eq_some_iff (hg : g.IsWellShaped) {header : Text} {e : Failure} :
    (g.offer tree header).failure = some e ↔ EndsAt g tree header e := by
  refine ⟨fun h => ?_, failure_offer_of_endsAt⟩
  unfold offer at h
  cases ht : readHeader tree header with
  | error e' =>
    rw [ht] at h
    cases h
    exact endsAt_of_readHeader ht
  | ok text =>
    cases hd : g.definitionsOf header text with
    | error e' =>
      simp only [ht, hd] at h
      cases h
      exact endsAt_of_definitionsOf hg ht hd
    | ok ds =>
      obtain ⟨ts, hts⟩ := hg.exists_trialsOf header text
      simp only [ht, hd, hts] at h
      cases h

/-- Headers fail with the failure of the first of them that fails. -/
theorem failure_offers_eq_some_iff {headers : List Text} {e : Failure} :
    (g.offers tree headers).failure = some e ↔ ∃ before header after,
      headers = before ++ header :: after ∧ (∀ k ∈ before, (g.offer tree k).failure = none) ∧
        (g.offer tree header).failure = some e := by
  induction headers with
  | nil => simp [offers]
  | cons header headers ih =>
    have hcons : (g.offers tree (header :: headers)).failure =
        (g.offer tree header).failure.or (g.offers tree headers).failure := by
      change ((g.offer tree header).andThen (g.offers tree headers)).failure = _
      unfold Offer.andThen
      cases (g.offer tree header).failure <;> rfl
    rw [hcons]
    cases hh : (g.offer tree header).failure with
    | some e' =>
      constructor
      · intro he
        exact ⟨[], header, headers, rfl, by simp, hh.trans he⟩
      · rintro ⟨_ | ⟨k, before⟩, header', after, hsplit, hnone, hsome⟩
        · cases hsplit
          exact hh.symm.trans hsome
        · cases hsplit
          have hk := hnone header List.mem_cons_self
          rw [hh] at hk
          cases hk
    | none =>
      rw [Option.none_or, ih]
      constructor
      · rintro ⟨before, header', after, rfl, hnone, hsome⟩
        exact ⟨header :: before, header', after, rfl, List.forall_mem_cons.mpr ⟨hh, hnone⟩, hsome⟩
      · rintro ⟨_ | ⟨k, before⟩, header', after, hsplit, hnone, hsome⟩
        · cases hsplit
          rw [hh] at hsome
          cases hsome
        · cases hsplit
          exact ⟨before, header', after, rfl, (List.forall_mem_cons.mp hnone).2, hsome⟩

/-- What a run cannot report are the clashes among what its headers define. -/
theorem reports_offers_eq_false_iff {headers : List Text} :
    reports Account.empty.table (g.offers tree headers).account.definitions = false ↔
      Clashes [] (g.given tree headers) := reports_eq_false_iff

end Generator

/-- A run of a well-shaped generator ends early if a header ends it, with the failure of the first
such header, or if a collision before has no text. Declarations never end it. -/
theorem run_eq_error_iff {g : Generator} (hg : g.IsWellShaped) :
    (∀ header text c, (g.addBindings header text c).failure = none) ∧
    ∀ tree headers e, (g.run tree headers).result = .error e ↔
      (Clashes [] (g.given tree headers) ∧ e = .unwritable) ∨
      (¬Clashes [] (g.given tree headers) ∧ ∃ before header after,
        headers = before ++ header :: after ∧ (∀ k ∈ before, ∀ e', ¬EndsAt g tree k e') ∧
          EndsAt g tree header e) := by
  refine ⟨fun header text c => hg.failure_addBindings header text c, fun tree headers e => ?_⟩
  have hgoes (k : Text) : (g.offer tree k).failure = none ↔ ∀ e', ¬EndsAt g tree k e' := by
    rw [Option.eq_none_iff_forall_ne_some]
    exact forall_congr' fun e' => not_congr (Generator.failure_offer_eq_some_iff hg)
  have hfirst : (g.offers tree headers).failure = some e ↔ ∃ before header after,
      headers = before ++ header :: after ∧ (∀ k ∈ before, ∀ e', ¬EndsAt g tree k e') ∧
        EndsAt g tree header e := by
    rw [Generator.failure_offers_eq_some_iff]
    simp only [hgoes, Generator.failure_offer_eq_some_iff hg]
  rw [g.result_run_eq, map_eq_error_iff, Offer.after, ← hfirst,
    ← Generator.reports_offers_eq_false_iff]
  cases reports Account.empty.table (g.offers tree headers).account.definitions with
  | false => simp [eq_comm]
  | true => cases (g.offers tree headers).failure <;> simp

theorem isWellShaped_ones : Generator.ones.IsWellShaped where
  exportMark := rfl
  libraryPrefix := ⟨_, rfl⟩
  returnName := rfl
  types := by
    intro e he
    cases he
  sizes := by
    intro v hv
    cases hv
  expander := by
    intro header names cause _ h
    cases h

/-- A name of one byte more than a name may have. -/
def longName : Text := List.replicate 256 'x'

/-- A run over a header and then one of too long a name ends at the second. -/
theorem ones_run_longName : (Generator.ones.run smallTree [['a'], longName]).result =
    .error (.unreachable ⟨.tooLong, some (pathOf longName)⟩) := by
  have hreports : reports Account.empty.table
      (Generator.ones.offers smallTree [['a'], longName]).account.definitions = true := by
    decide +kernel
  have hclash : ¬Clashes [] (Generator.ones.given smallTree [['a'], longName]) := by
    intro h
    rw [Generator.reports_offers_eq_false_iff.mpr h] at hreports
    cases hreports
  have hfirst : (Generator.ones.offer smallTree ['a']).failure = none := by decide +kernel
  have hends : ∀ k ∈ [['a']], ∀ e', ¬EndsAt Generator.ones smallTree k e' := by
    rintro k hk e' he
    obtain rfl := List.mem_singleton.mp hk
    rw [Generator.failure_offer_of_endsAt he] at hfirst
    cases hfirst
  exact ((run_eq_error_iff isWellShaped_ones).2 _ _ _).mpr
    (.inr ⟨hclash, [['a']], longName, [], rfl, hends, .unreachable ⟨by decide +kernel, rfl⟩⟩)

end HeaderBindings.Binding
