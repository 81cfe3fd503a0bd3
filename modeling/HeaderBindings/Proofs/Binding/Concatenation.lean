import HeaderBindings.Proofs.Binding.Accounting
import HeaderBindings.Proofs.Constant.MacroSearch
import HeaderBindings.Proofs.Steps

/-!
# Runs over lists of headers one after the other

What headers offer does not hang on the headers before them. Whether a run takes all of it hangs on
one thing only: no definition may come again after a first value that has no text, for such a
collision cannot be reported and ends the run. So a run over two lists is put together from the runs
over each of them, unless a collision between the two is of this kind.
-/
namespace HeaderBindings.Binding

open Constant (Definition Table Value)
open FirstWins (common firsts unseen)
open Header (Declaration)

/-! ### Collisions that cannot be reported -/

/-- Whether a table can report its collisions with definitions that follow one another. -/
def reports : Table → List Definition → Bool
  | _, [] => true
  | t, d :: ds => t.yieldsReadably d && reports (t.add d).1 ds

/-- A pair comes after a first one of its name, known before or given with it, without a text. -/
def Clashes (known given : List (Text × Value)) : Prop :=
  ∃ before p after, given = before ++ p :: after ∧
    ∃ q, (known ++ before).find? (·.1 = p.1) = some q ∧ q.2.isWritable = false

theorem reports_append (t : Table) (ds es : List Definition) :
    reports t (ds ++ es) = (reports t ds && reports (t.merge ds).1 es) := by
  induction ds generalizing t with
  | nil => rfl
  | cons d ds ih => simp only [List.cons_append, reports, ih, Bool.and_assoc, Table.merge]

theorem yieldsReadably_add {t : Table} {d e : Definition} (h : d.name ≠ e.name) :
    (t.add d).1.yieldsReadably e = t.yieldsReadably e := by
  simp [Table.yieldsReadably, Table.get?, Table.find?_add, h]

/-- Definitions of different names can be reported alike before and after each other. -/
theorem reports_eq_all (t : Table) {ds : List Definition} (h : (ds.map Definition.name).Nodup) :
    reports t ds = ds.all t.yieldsReadably := by
  induction ds generalizing t with
  | nil => rfl
  | cons d ds ih =>
    obtain ⟨hd, hds⟩ := List.nodup_cons.mp h
    have hy : ∀ e ∈ ds, (t.add d).1.yieldsReadably e = t.yieldsReadably e := by
      intro e he
      exact yieldsReadably_add (fun hn => hd (hn ▸ List.mem_map_of_mem he))
    rw [reports, ih _ hds, List.all_cons, Bool.eq_iff_iff, Bool.and_eq_true, Bool.and_eq_true,
      List.all_eq_true, List.all_eq_true]
    exact and_congr_right (fun _ => forall₂_congr (fun e he => by rw [hy e he]))

/-- Collisions with one table can be reported if they can with another that has them all, or that
comes before it. -/
theorem reports_of_find? {t s u : Table} {ds : List Definition}
    (hu : ∀ name, u.find? name = (t.find? name).or (s.find? name)) (hs : reports s ds = true) :
    reports u ds = ds.all t.yieldsReadably := by
  induction ds generalizing s u with
  | nil => rfl
  | cons d ds ih =>
    rw [reports, Bool.and_eq_true] at hs
    obtain ⟨hd, hds⟩ := hs
    have hnext : ∀ name, (u.add d).1.find? name =
        (t.find? name).or ((s.add d).1.find? name) := by
      intro name
      rw [Table.find?_add, Table.find?_add, hu, Option.or_assoc]
    have hy : u.yieldsReadably d = t.yieldsReadably d := by
      unfold Table.yieldsReadably Table.get? at hd ⊢
      rw [hu]
      cases ht : t.find? d.name with
      | some first => rfl
      | none => simpa using hd
    rw [reports, ih hnext hds, hy, List.all_cons]

theorem find?_entries (t : Table) (name : Text) :
    t.entries.find? (·.1 = name) = (t.find? name).map fun d => (d.name, d.value) := by
  rw [Table.entries, Table.find?, List.find?_map]
  rfl

theorem yieldsReadably_eq_false_iff {t : Table} {d : Definition} :
    t.yieldsReadably d = false ↔
      ∃ q, t.entries.find? (·.1 = d.name) = some q ∧ q.2.isWritable = false := by
  rw [find?_entries, Table.yieldsReadably, Table.get?]
  cases t.find? d.name <;> simp

/-- Only the first pairs of their names matter among those that are known. -/
theorem clashes_congr {known known' given : List (Text × Value)}
    (h : ∀ name, known.find? (·.1 = name) = known'.find? (·.1 = name)) :
    Clashes known given ↔ Clashes known' given := by
  simp only [Clashes, List.find?_append, h]

theorem not_clashes_nil (known : List (Text × Value)) : ¬Clashes known [] := by
  rintro ⟨before, p, after, h, -⟩
  simp at h

theorem clashes_cons {known given : List (Text × Value)} {p : Text × Value} :
    Clashes known (p :: given) ↔
      (∃ q, known.find? (·.1 = p.1) = some q ∧ q.2.isWritable = false) ∨
        Clashes (known ++ [p]) given := by
  constructor
  · rintro ⟨before, p', after, h, hq⟩
    rcases List.cons_eq_append_iff.mp h with ⟨rfl, hp⟩ | ⟨before, rfl, hg⟩
    · obtain ⟨rfl, -⟩ := List.cons.inj hp
      exact .inl (by simpa using hq)
    · exact .inr ⟨before, p', after, hg, by simpa using hq⟩
  · rintro (hq | ⟨before, p', after, rfl, hq⟩)
    · exact ⟨[], p, given, rfl, by simpa using hq⟩
    · exact ⟨p :: before, p', after, rfl, by simpa using hq⟩

/-- What a table cannot report are the clashes with its entries. -/
theorem reports_eq_false_iff {t : Table} {ds : List Definition} :
    reports t ds = false ↔ Clashes t.entries (ds.map fun d => (d.name, d.value)) := by
  induction ds generalizing t with
  | nil => simp [reports, not_clashes_nil]
  | cons d ds ih =>
    have hfind : ∀ name, (t.add d).1.entries.find? (·.1 = name) =
        (t.entries ++ [(d.name, d.value)]).find? (·.1 = name) := by
      intro name
      rw [List.find?_append, find?_entries, find?_entries, Table.find?_add]
      by_cases hn : d.name = name <;> cases t.find? name <;> simp [hn]
    rw [reports, Bool.and_eq_false_iff, yieldsReadably_eq_false_iff, ih, List.map_cons,
      clashes_cons, clashes_congr hfind]

/-! ### Names of one header -/

theorem constantsOf_sublist (names expansions : List Text) :
    ((Constant.constantsOf names expansions).map Prod.fst).Sublist
      ((names.zip expansions).map Prod.fst) := by
  unfold Constant.constantsOf
  induction names.zip expansions with
  | nil => exact .slnil
  | cons p ps ih =>
    rw [List.filterMap_cons, List.map_cons]
    cases Constant.literalValue? p.2 with
    | none => exact ih.cons _
    | some v => exact ih.cons_cons _

/-- Only candidates are constants, in their order. -/
theorem sublist_extract {expander : Preprocessor.Expander} {header text : Text}
    {pairs : List (Text × Value)} (h : (Constant.extract expander header text).result = .ok pairs) :
    (pairs.map Prod.fst).Sublist (Constant.candidates text) := by
  unfold Constant.extract at h
  split at h
  · cases h
    exact List.nil_sublist _
  · next hnil =>
    dsimp only at h
    split at h
    · cases h
    · next expansions _ =>
      split_ifs at h with hlen
      split at h
      · cases h
      · cases h
        have hz : ((Constant.candidates text).zip expansions).map Prod.fst =
            Constant.candidates text := List.map_fst_zip (by omega)
        have hs := constantsOf_sublist (Constant.candidates text) expansions
        rwa [hz] at hs

/-- The constants of a header have different names. -/
theorem nodup_extract {expander : Preprocessor.Expander} {header text : Text}
    {pairs : List (Text × Value)} (h : (Constant.extract expander header text).result = .ok pairs) :
    (pairs.map Prod.fst).Nodup :=
  (Constant.nodup_candidates _).sublist (sublist_extract h)

/-! ### Offers -/

namespace Account

@[simp] theorem append_empty (a : Account) : a.append .empty = a := by simp [append, empty]

@[simp] theorem empty_append (a : Account) : empty.append a = a := by simp [append, empty]

theorem append_assoc (a b c : Account) : (a.append b).append c = a.append (b.append c) := by
  simp [append, Nat.add_assoc]

theorem table_append (a b : Account) :
    (a.append b).table = (a.table.merge b.definitions).1 := FirstWins.merge_append _ _ _

end Account

/-- What headers give, and what keeps them from giving more. -/
structure Offer where
  account : Account
  failure : Option Failure

namespace Offer

/-- One offer after another; nothing comes after a failure. -/
def andThen (o p : Offer) : Offer :=
  match o.failure with
  | none => ⟨o.account.append p.account, p.failure⟩
  | some e => ⟨o.account, some e⟩

/-- An account after it has taken an offer up to a collision that cannot be reported. -/
def after (a : Account) (o : Offer) : Except Failure Account :=
  if reports a.table o.account.definitions then
    match o.failure with
    | none => .ok (a.append o.account)
    | some e => .error e
  else .error .unwritable

theorem andThen_assoc (o p q : Offer) : (o.andThen p).andThen q = o.andThen (p.andThen q) := by
  rcases o with ⟨a, _ | e⟩
  · rcases p with ⟨b, _ | e⟩ <;> simp [andThen, Account.append_assoc]
  · rfl

theorem after_andThen (a : Account) (o p : Offer) :
    (o.andThen p).after a = (o.after a).bind p.after := by
  rcases o with ⟨b, _ | e⟩
  · unfold after andThen
    dsimp only
    rw [show (b.append p.account).definitions = b.definitions ++ p.account.definitions from rfl,
      reports_append, ← Account.table_append]
    cases reports a.table b.definitions with
    | false => rfl
    | true => simp [Except.bind, Account.append_assoc]
  · unfold after andThen
    dsimp only
    split_ifs <;> rfl

end Offer

namespace Generator
variable (g : Generator) (tree : Files.Tree)

/-- What one header offers. -/
def offer (header : Text) : Offer :=
  match readHeader tree header with
  | .error e => ⟨.empty, some e⟩
  | .ok text =>
    match g.definitionsOf header text with
    | .error e => ⟨.empty, some e⟩
    | .ok ds =>
      match g.trialsOf header text with
      | .error e => ⟨Account.empty.define ds, some e⟩
      | .ok ts => ⟨(Account.empty.next.define ds).add ts, none⟩

/-- What headers offer that follow one another. -/
def offers (headers : List Text) : Offer :=
  headers.foldr (fun header o => (g.offer tree header).andThen o) ⟨.empty, none⟩

/-- The constants that headers define, up to one that keeps them from going on. -/
def given (headers : List Text) : List (Text × Value) :=
  (g.offers tree headers).account.definitions.map fun d => (d.name, d.value)

theorem offers_append (hs ks : List Text) :
    g.offers tree (hs ++ ks) = (g.offers tree hs).andThen (g.offers tree ks) := by
  induction hs with
  | nil => simp [offers, Offer.andThen]
  | cons h hs ih =>
    change (g.offer tree h).andThen (g.offers tree (hs ++ ks)) =
      ((g.offer tree h).andThen (g.offers tree hs)).andThen _
    rw [ih, Offer.andThen_assoc]

/-- The definitions of one header have different names. -/
theorem nodup_definitionsOf {header text : Text} {ds : List Definition}
    (h : g.definitionsOf header text = .ok ds) : (ds.map Definition.name).Nodup := by
  unfold definitionsOf at h
  cases hx : (Constant.extract g.expander header text).result with
  | ok pairs =>
    rw [hx] at h
    cases h
    rw [Table.definitionsOf, List.map_map]
    exact nodup_extract hx
  | error e =>
    rw [hx] at h
    rcases e with ⟨⟨failure⟩ | ⟨cause⟩ | _⟩ | ⟨_, expected, found⟩ | ⟨cause⟩
    · dsimp only at h
      split_ifs at h
      cases h
      exact List.nodup_nil
    all_goals cases h

/-- An account goes on with a header as it takes what the header offers. -/
theorem account_eq_after (a : Account) (header : Text) :
    (g.account tree a header).mapError Account.Stop.failure = (g.offer tree header).after a := by
  unfold account offer
  cases readHeader tree header with
  | error e => simp [Offer.after, reports, Account.empty, Except.mapError]
  | ok text =>
    dsimp only
    cases hd : g.definitionsOf header text with
    | error e => simp [Offer.after, reports, Account.empty, Except.mapError]; rfl
    | ok ds =>
      have hr : ds.all a.next.table.yieldsReadably = reports a.table ds :=
        (reports_eq_all _ (nodup_definitionsOf g hd)).symm
      rw [Account.defined, hr]
      cases hrep : reports a.table ds with
      | false => cases g.trialsOf header text <;> simp [Offer.after, hrep, Account.define,
          Account.add, Account.next, Account.empty] <;> rfl
      | true =>
        cases g.trialsOf header text <;> simp [Offer.after, hrep, Account.define,
          Account.add, Account.next, Account.empty, Account.append] <;> rfl

theorem foldlM_account (a : Account) (headers : List Text) :
    (headers.foldlM (g.account tree) a).mapError Account.Stop.failure =
      (g.offers tree headers).after a := by
  induction headers generalizing a with
  | nil =>
    have h : Offer.after a ⟨.empty, none⟩ = .ok (a.append .empty) := rfl
    rw [Account.append_empty] at h
    exact h.symm
  | cons header headers ih =>
    rw [List.foldlM_cons]
    change _ = ((g.offer tree header).andThen (g.offers tree headers)).after a
    rw [Offer.after_andThen, ← account_eq_after]
    cases g.account tree a header with
    | error s => rfl
    | ok b => exact ih b

/-- A run takes what its headers offer. -/
theorem result_run_eq (headers : List Text) :
    (g.run tree headers).result = ((g.offers tree headers).after .empty).map g.resultOf := by
  rw [result_run, ← foldlM_account]
  cases headers.foldlM (g.account tree) .empty <;> rfl

/-! What keeps a header from giving more is never a collision. -/

theorem readHeader_ne {header : Text} : readHeader tree header ≠ .error .unwritable := by
  have hbytes (path : Text) : headerBytes tree path ≠ .error .unwritable := by
    unfold headerBytes
    split
    · simp
    · simp
    · split <;> simp
  unfold readHeader
  cases h : headerBytes tree (Files.Path.ofText header).write with
  | error e => exact fun he => hbytes _ (h.trans (congrArg _ (Except.error.inj he)))
  | ok bytes => simp [Except.map]

theorem definitionsOf_ne {header text : Text} :
    g.definitionsOf header text ≠ .error .unwritable := by
  unfold definitionsOf
  split
  any_goals simp
  split_ifs <;> simp

/-! What keeps a declaration from being tried is a datum of the wrong kind. -/

theorem error_trial? {source : Text} {d : Declaration} {e : Failure}
    (h : g.trial? source d = .error e) : ∃ cause, e = .misuse cause := by
  unfold trial? at h
  split at h
  · exact ⟨_, (Except.error.inj h).symm⟩
  · cases h
  · split at h
    · cases h
    · cases h
    · exact ⟨_, (Except.error.inj h).symm⟩

theorem error_trials {source : Text} {ds : List Declaration} {e : Failure}
    (h : g.trials source ds = .error e) : ∃ cause, e = .misuse cause := by
  induction ds generalizing e with
  | nil => cases h
  | cons d ds ih =>
    rw [trials] at h
    cases ht : g.trial? source d with
    | error e' =>
      rw [ht] at h
      cases h
      exact error_trial? g ht
    | ok t =>
      rw [ht] at h
      cases hts : g.trials source ds with
      | error e' =>
        rw [hts] at h
        cases h
        exact ih hts
      | ok ts =>
        rw [hts] at h
        cases h

theorem error_trialsOf {header text : Text} {e : Failure}
    (h : g.trialsOf header text = .error e) : ∃ cause, e = .misuse cause := by
  unfold trialsOf at h
  split at h
  · exact error_trials g h
  · split_ifs at h
    exact ⟨_, (Except.error.inj h).symm⟩

theorem failure_offer_ne (header : Text) :
    (g.offer tree header).failure ≠ some .unwritable := by
  unfold offer
  split
  · next e h => exact fun he => readHeader_ne tree (Option.some.inj he ▸ h)
  · split
    · next e h => exact fun he => definitionsOf_ne g (Option.some.inj he ▸ h)
    · split
      · next e h =>
        obtain ⟨cause, rfl⟩ := error_trialsOf g h
        simp
      · simp

theorem failure_offers_ne (headers : List Text) :
    (g.offers tree headers).failure ≠ some .unwritable := by
  induction headers with
  | nil => simp [offers]
  | cons header headers ih =>
    have hh := failure_offer_ne g tree header
    change ((g.offer tree header).andThen (g.offers tree headers)).failure ≠ _
    unfold Offer.andThen
    split
    · exact ih
    · next e he => exact he ▸ hh

end Generator

/-! ### Results one after the other -/

/-- A result is put together from the results over the first and over the second headers. -/
structure Combines (r₁ r₂ r : Result) : Prop where
  bindings_eq : r.bindings =
    r₁.bindings ++ unseen BoundFunction.name r₁.bindings r₂.bindings
  constants_eq : r.constants = r₁.constants ++ unseen Prod.fst r₁.constants r₂.constants
  headers_eq : r.statistics.headers = r₁.statistics.headers + r₂.statistics.headers
  declarations_eq : r.statistics.declarations =
    r₁.statistics.declarations + r₂.statistics.declarations
  skipped_eq : r.statistics.skipped = r₁.statistics.skipped + r₂.statistics.skipped
  registered_eq : r.statistics.registered + common BoundFunction.name r₁.bindings r₂.bindings =
    r₁.statistics.registered + r₂.statistics.registered
  duplicates_eq : r.statistics.duplicates =
    r₁.statistics.duplicates + r₂.statistics.duplicates +
      common BoundFunction.name r₁.bindings r₂.bindings
  size_eq : r.statistics.constants + common Prod.fst r₁.constants r₂.constants =
    r₁.statistics.constants + r₂.statistics.constants
  collisions_eq : r.statistics.collisions =
    r₁.statistics.collisions + r₂.statistics.collisions +
      common Prod.fst r₁.constants r₂.constants

theorem isSkipped_fate (t : Trial) (r : Register) :
    Handled.isSkipped ⟨t.source, t.declaration, t.fate r⟩ = (t.result matches .error _) := by
  unfold Handled.isSkipped Trial.fate
  cases t.result with
  | error cause => rfl
  | ok f =>
    dsimp only
    cases r.find? f.name <;> rfl

namespace Account
variable (a b : Account)

theorem functions_append : (a.append b).register.functions = a.register.functions ++
    unseen BoundFunction.name a.register.functions b.register.functions := by
  simp only [functions_register]
  rw [show boundBy (a.append b).trials = boundBy a.trials ++ boundBy b.trials from
    List.filterMap_append, FirstWins.firsts_append]
  rw [FirstWins.unseen_congr _ (FirstWins.mem_keys_firsts _ _)]

theorem entries_append : (a.append b).table.entries = a.table.entries ++
    unseen Prod.fst a.table.entries b.table.entries := by
  simp only [entries_table]
  rw [show (a.append b).definitions = a.definitions ++ b.definitions from rfl, List.map_append,
    FirstWins.firsts_append, FirstWins.unseen_congr _ (FirstWins.mem_keys_firsts _ _)]

theorem length_handled : a.handled.length = a.trials.length := by
  have h := congrArg List.length (declarations_handledFrom .empty a.trials)
  rwa [List.length_map, List.length_map] at h

theorem countP_registered :
    a.handled.countP Handled.isRegistered = a.register.functions.length := by
  rw [← length_bindings, register, functions_foldl_after]
  rfl

theorem countP_skipped : a.handled.countP Handled.isSkipped =
    a.trials.countP (·.result matches .error _) := by
  rw [handled]
  generalize Register.empty = r
  induction a.trials generalizing r with
  | nil => rfl
  | cons t ts ih =>
    rw [handledFrom, List.countP_cons, List.countP_cons, ih, isSkipped_fate]

end Account

theorem combines_append (g : Generator) (a b : Account) :
    Combines (g.resultOf a) (g.resultOf b) (g.resultOf (a.append b)) := by
  have hf := congrArg List.length (Account.functions_append a b)
  have he := congrArg List.length (Account.entries_append a b)
  have hu := FirstWins.length_unseen BoundFunction.name a.register.functions b.register.functions
  have hv := FirstWins.length_unseen Prod.fst a.table.entries b.table.entries
  rw [List.length_append] at hf he
  have hsize (c : Account) : c.table.size = c.table.entries.length := by
    simp [Table.size, Table.entries]
  have hreg := Account.countP_registered
  have hskip : (a.append b).handled.countP Handled.isSkipped =
      a.handled.countP Handled.isSkipped + b.handled.countP Handled.isSkipped := by
    simp only [Account.countP_skipped]
    exact List.countP_append
  have hlen : (a.append b).handled.length = a.handled.length + b.handled.length := by
    simp only [Account.length_handled]
    exact List.length_append
  exact {
    bindings_eq := Account.functions_append a b
    constants_eq := Account.entries_append a b
    headers_eq := rfl
    declarations_eq := hlen
    skipped_eq := hskip
    registered_eq := by
      simp only [Generator.resultOf, Account.statistics, hreg]
      omega
    duplicates_eq := by
      have h := length_eq_counts (a.append b).handled
      have ha := length_eq_counts a.handled
      have hb := length_eq_counts b.handled
      simp only [hreg] at h ha hb
      simp only [Generator.resultOf, Account.statistics]
      omega
    size_eq := by
      simp only [Generator.resultOf, hsize]
      omega
    collisions_eq := by
      have h := (a.append b).size_table
      have ha := a.size_table
      have hb := b.size_table
      have hd : (a.append b).definitions.length = a.definitions.length + b.definitions.length :=
        List.length_append
      simp only [hsize] at h ha hb
      simp only [Generator.resultOf]
      omega }

/-- A result withholds a text from a constant that the other result defines, too. -/
def Withholds (r₁ r₂ : Result) : Prop :=
  ∃ p ∈ r₁.constants, p.2.isWritable = false ∧ p.1 ∈ r₂.constants.map Prod.fst

theorem find?_of_mem_entries (a : Account) {p : Text × Value} (h : p ∈ a.table.entries) :
    a.table.entries.find? (·.1 = p.1) = some p := by
  have hn : (a.table.entries.map Prod.fst).Nodup := by
    rw [Account.entries_table]
    exact FirstWins.nodup_keys_firsts _ _
  cases hf : a.table.entries.find? (·.1 = p.1) with
  | none => simpa using List.find?_eq_none.mp hf p h
  | some q =>
    have hq : q.1 = p.1 := by simpa using List.find?_some hf
    exact congrArg some (List.inj_on_of_nodup_map hn (List.mem_of_find?_eq_some hf) h hq)

/-- A table reports what can be reported by itself, unless a text is withheld. -/
theorem reports_eq_false_iff_withholds (g : Generator) {a b : Account}
    (h : reports .empty b.definitions = true) :
    reports a.table b.definitions = false ↔ Withholds (g.resultOf a) (g.resultOf b) := by
  have hr : reports a.table b.definitions = b.definitions.all a.table.yieldsReadably :=
    reports_of_find? (s := .empty) (fun name => by simp [Table.find?, Table.empty]) h
  have hkeys : ∀ name, name ∈ b.table.entries.map Prod.fst ↔
      name ∈ b.definitions.map Definition.name := by
    intro name
    rw [Account.entries_table, FirstWins.mem_keys_firsts, List.map_map]
    rfl
  rw [hr, List.all_eq_false]
  constructor
  · rintro ⟨d, hd, hy⟩
    obtain ⟨q, hq, hw⟩ := yieldsReadably_eq_false_iff.mp (by simpa using hy)
    have hn : q.1 = d.name := by simpa using List.find?_some hq
    exact ⟨q, List.mem_of_find?_eq_some hq, hw,
      (hkeys q.1).mpr (hn ▸ List.mem_map_of_mem hd)⟩
  · rintro ⟨p, hp, hw, hm⟩
    obtain ⟨d, hd, hn⟩ := List.mem_map.mp ((hkeys p.1).mp hm)
    refine ⟨d, hd, ?_⟩
    have hy : a.table.yieldsReadably d = false :=
      yieldsReadably_eq_false_iff.mpr ⟨p, hn ▸ find?_of_mem_entries a hp, hw⟩
    simp [hy]

namespace Offer
variable {a b : Account} {o : Offer}

theorem after_eq_ok_iff : o.after a = .ok b ↔
    reports a.table o.account.definitions = true ∧ o.failure = none ∧
      b = a.append o.account := by
  unfold after
  split_ifs with h
  · cases o.failure <;> simp [h, eq_comm]
  · simp [h]

theorem after_eq_unwritable (h : reports a.table o.account.definitions = false) :
    o.after a = .error .unwritable := by simp [after, h]

/-- An offer that an empty account fails to take fails alike after another account, unless the
failure is a collision. -/
theorem after_eq_error_iff {e : Failure} (hne : o.failure ≠ some .unwritable)
    (he : o.after .empty = .error e) (h : reports a.table o.account.definitions = true) :
    o.after a = .error e ↔ e ≠ .unwritable := by
  unfold after at he ⊢
  rw [if_pos h]
  split_ifs at he
  · cases hf : o.failure with
    | none => simp [hf] at he
    | some e' =>
      simp only [hf, Except.error.injEq] at he
      subst he
      simpa [hf] using hne
  · cases he
    cases hf : o.failure with
    | none => simp
    | some e' => simpa [hf] using hne

end Offer

/-- A run over two lists of headers ends as the run over the first, if that fails. Otherwise its
result is put together from the results over both; or it fails as the run over the second does. It
is different only if a collision between the two lists cannot be reported, which is a failure of its
own, or if the first list defines the constant of which the second could not report a collision. -/
theorem run_append (g : Generator) (tree : Files.Tree) (hs ks : List Text) :
    (∀ e, (g.run tree hs).result = .error e → (g.run tree (hs ++ ks)).result = .error e) ∧
    ∀ r₁, (g.run tree hs).result = .ok r₁ →
      (∀ r₂, (g.run tree ks).result = .ok r₂ →
        (Withholds r₁ r₂ → (g.run tree (hs ++ ks)).result = .error .unwritable) ∧
        (¬Withholds r₁ r₂ →
          ∃ r, (g.run tree (hs ++ ks)).result = .ok r ∧ Combines r₁ r₂ r)) ∧
      ∀ e, (g.run tree ks).result = .error e →
        (Clashes r₁.constants (g.given tree ks) →
          (g.run tree (hs ++ ks)).result = .error .unwritable) ∧
        (¬Clashes r₁.constants (g.given tree ks) →
          ((g.run tree (hs ++ ks)).result = .error e ↔ e ≠ .unwritable)) := by
  have happ : (g.run tree (hs ++ ks)).result =
      (((g.offers tree hs).after .empty).bind (g.offers tree ks).after).map g.resultOf := by
    rw [g.result_run_eq, g.offers_append, Offer.after_andThen]
  rw [g.result_run_eq tree hs, g.result_run_eq tree ks]
  rcases hh : (g.offers tree hs).after .empty with e | a <;> rw [hh] at happ
  · refine ⟨fun e' he => happ.trans he, ?_⟩
    rintro r₁ ⟨⟩
  replace happ : (g.run tree (hs ++ ks)).result =
      ((g.offers tree ks).after a).map g.resultOf := happ
  refine ⟨?_, ?_⟩
  · rintro e ⟨⟩
  rintro r₁ ⟨⟩
  have hclash : reports a.table (g.offers tree ks).account.definitions = false ↔
      Clashes (g.resultOf a).constants (g.given tree ks) := reports_eq_false_iff
  rcases hk : (g.offers tree ks).after .empty with e | b
  · -- the second list fails by itself
    refine ⟨?_, ?_⟩
    · rintro r₂ ⟨⟩
    rintro _ ⟨⟩
    refine ⟨fun hc => ?_, fun hc => ?_⟩
    · rw [happ, Offer.after_eq_unwritable (hclash.mpr hc)]
      rfl
    · have hr : reports a.table (g.offers tree ks).account.definitions = true := by
        simpa using mt hclash.mp hc
      rw [happ, ← Offer.after_eq_error_iff (g.failure_offers_ne tree ks) hk hr]
      exact map_eq_error_iff
  · -- both lists have results
    refine ⟨?_, ?_⟩
    · rintro _ ⟨⟩
      obtain ⟨hr, hf, hb⟩ := Offer.after_eq_ok_iff.mp hk
      rw [Account.empty_append] at hb
      subst hb
      have hw := reports_eq_false_iff_withholds g (a := a) hr
      refine ⟨fun h => ?_, fun h => ?_⟩
      · rw [happ, Offer.after_eq_unwritable (hw.mpr h)]
        rfl
      · have hr' : reports a.table (g.offers tree ks).account.definitions = true := by
          simpa using mt hw.mp h
        rw [happ, Offer.after_eq_ok_iff.mpr ⟨hr', hf, rfl⟩]
        exact ⟨_, rfl, combines_append g a _⟩
    · rintro e ⟨⟩

/-- A generator whose expander gives every macro a power of two with 4301 digits. -/
def Generator.powers : Generator :=
  { Generator.ones with
    expander := fun _ names => ⟨[], .ok (names.map fun _ => "1<<14285".toList)⟩ }

/-- A header that can be taken once but not twice. -/
theorem powers_run_append : ∃ r, (Generator.powers.run smallTree [['a']]).result = .ok r ∧
    Withholds r r ∧
    (Generator.powers.run smallTree ([['a']] ++ [['a']])).result = .error .unwritable := by
  have hc : (Generator.powers.run smallTree [['a']]).result.toOption.map
      (fun r => r.constants.map fun p => (p.1, p.2.isWritable)) = some [(['K'], false)] := by
    decide +kernel
  cases hr : (Generator.powers.run smallTree [['a']]).result with
  | error e => simp [hr, Except.toOption] at hc
  | ok r =>
    obtain ⟨p, hp, hk⟩ : ∃ p, r.constants = [p] ∧ (p.1, p.2.isWritable) = (['K'], false) := by
      simpa [hr, Except.toOption, List.map_eq_singleton_iff] using hc
    have hw : Withholds r r := ⟨p, by simp [hp], congrArg Prod.snd hk, by simp [hp]⟩
    have happ := (run_append Generator.powers smallTree [['a']] [['a']]).2 r hr
    exact ⟨r, rfl, hw, (happ.1 r hr).1 hw⟩

end HeaderBindings.Binding
