import HeaderBindings.Proofs.Binding.Account

/-!
# The books of a run balance

Of a run that ends with a result, every prefixed declaration is either among the bindings or behind
exactly one warning of the emitter, in the order of the headers; the counters count just these; and
the constants are the first definitions of all that the headers gave.
-/
namespace HeaderBindings.Binding

open Constant (Definition Table Value)
open FirstWins (firsts)
open Header (Declaration)
open Log (Event)

/-! ### Results and accounts -/

namespace Generator
variable (g : Generator) (tree : Files.Tree)

/-- The result of a run with a given account. -/
def resultOf (a : Account) : Result where
  bindings := a.register.functions
  constants := a.table.entries
  statistics := { a.statistics with
    constants := a.table.size, collisions := a.table.collisions.length }
  exported := if a.table.size = 0 then none else some ⟨g.tableName, a.table.entries⟩

theorem finish_eq {a : Account} {c : Context} (h : a.ShownBy c) :
    (g.finish c).result = .ok (g.resultOf a) ∧
      (g.finish c).log.filter isEmitterWarning = a.handled.filterMap Handled.warning? := by
  obtain ⟨ht, hr, hs, hw⟩ := h
  refine ⟨?_, ?_⟩
  · simp only [finish, resultOf, ht, hr, hs]
  · exact (filter_report c (quiet_singleton rfl)).trans hw

/-- The result of a run is that of its account. -/
theorem result_run (headers : List Text) :
    (g.run tree headers).result =
      match headers.foldlM (g.account tree) .empty with
      | .ok a => .ok (g.resultOf a)
      | .error s => .error s.failure := by
  unfold run
  have h := metBy_run g tree headers
  revert h
  generalize Progress.steps (g.addHeader tree) .empty headers = p
  generalize headers.foldlM (g.account tree) .empty = r
  rintro (⟨hs⟩ | ⟨ht⟩)
  · exact (finish_eq g hs).1
  · rfl

theorem run_ok {headers : List Text} {log : List Event} {r : Result}
    (h : g.run tree headers = ⟨log, .ok r⟩) :
    ∃ a, headers.foldlM (g.account tree) .empty = .ok a ∧ r = g.resultOf a ∧
      log.filter isEmitterWarning = a.handled.filterMap Handled.warning? := by
  have hm := metBy_run g tree headers
  unfold run at h
  revert h hm
  generalize Progress.steps (g.addHeader tree) .empty headers = p
  generalize headers.foldlM (g.account tree) .empty = s
  rintro h (⟨hs⟩ | ⟨ht⟩)
  · obtain ⟨hr, hl⟩ := finish_eq g hs
    simp only at h
    rw [h] at hr hl
    exact ⟨_, rfl, Except.ok.inj hr, hl⟩
  · cases h

/-! ### What the headers give -/

/-- The pairs of names and values that are extracted from a header. -/
def extracted (header : Text) : List (Text × Value) :=
  match readHeader tree header with
  | .ok text =>
    match (Constant.extract g.expander header text).result with
    | .ok pairs => pairs
    | .error _ => []
  | .error _ => []

/-- The declarations of a header whose name has the prefix of the library. -/
def declared (header : Text) : List Declaration :=
  match g.exportMark.mark?, g.rules.libraryPrefix, readHeader tree header with
  | some mark, .text p, .ok text =>
    (Header.declarations mark text).filter fun d => (Header.shortName? p d.name).isSome
  | _, _, _ => []

end Generator

theorem shortName?_eq {p name short : Text} (h : Header.shortName? p name = some short) :
    name = p ++ short := by
  unfold Header.shortName? at h
  split at h
  · next c r hd =>
    rw [← Option.some.inj h]
    exact Text.dropPrefix?_eq_some_iff.mp hd
  · cases h

/-- A function is bound for a declaration of a source. -/
structure Binds (g : Generator) (source : Text) (d : Declaration) (f : BoundFunction) : Prop where
  native : f.nativeName = d.name
  place : f.place = ⟨source, d.line⟩
  short : ∃ p, g.rules.libraryPrefix = .text p ∧ f.nativeName = p ++ f.name

theorem binds_of_bind {g : Generator} {source : Text} {d : Declaration} {f : BoundFunction}
    (h : (g.rules.bind source d).result = .ok f) : Binds g source d f := by
  obtain ⟨p, short, arguments, hp, hs, -, rfl⟩ := Generator.bind_eq_ok h
  exact ⟨rfl, rfl, p, hp, shortName?_eq hs⟩

/-- A trial that succeeds binds its own declaration. -/
def Trial.Sound (g : Generator) (t : Trial) : Prop :=
  ∀ f, t.result = .ok f → Binds g t.source t.declaration f

namespace Generator
variable {g : Generator} {tree : Files.Tree}

theorem trial?_ok {source : Text} {d : Declaration} {t : Option Trial}
    (h : g.trial? source d = .ok t) :
    (∀ p, g.rules.libraryPrefix = .text p →
      t.toList.map (fun t => (t.source, t.declaration)) =
        (if (Header.shortName? p d.name).isSome then [(source, d)] else [])) ∧
    ((∀ p, g.rules.libraryPrefix ≠ .text p) → t = none) ∧
    ∀ u ∈ t, u.Sound g := by
  rcases shortName_cases g.rules d.name with ⟨p, short, hp, hs, hr⟩ | ⟨p, hs, hr⟩ | ⟨-, hr⟩
  · have hown {q : Text} (hq : g.rules.libraryPrefix = .text q) :
        (Header.shortName? q d.name).isSome = true := by
      rw [hp] at hq
      cases hq
      rw [hs]
      rfl
    simp only [trial?, hr] at h
    cases hb : (g.rules.bind source d).result with
    | ok f =>
      rw [hb] at h
      cases h
      refine ⟨fun q hq => by simp [hown hq], fun hn => absurd hp (hn p), ?_⟩
      rintro u hu f' hf
      cases hu
      exact Except.ok.inj hf ▸ binds_of_bind hb
    | error e =>
      rw [hb] at h
      cases e with
      | rejected cause =>
        cases h
        refine ⟨fun q hq => by simp [hown hq], fun hn => absurd hp (hn p), ?_⟩
        rintro u hu f' hf
        cases hu
        cases hf
      | misuse cause => cases h
  · simp only [trial?, hr] at h
    cases h
    exact ⟨fun q hq => by simp [hs q hq], fun _ => rfl, by simp⟩
  · simp only [trial?, hr] at h
    cases h

/-- Trials and the declarations with the prefix are in step. -/
theorem trials_ok {source : Text} {ds : List Declaration} {ts : List Trial}
    (h : g.trials source ds = .ok ts) :
    (∀ p, g.rules.libraryPrefix = .text p →
      ts.map (fun t => (t.source, t.declaration)) =
        (ds.filter fun d => (Header.shortName? p d.name).isSome).map (source, ·)) ∧
    ((∀ p, g.rules.libraryPrefix ≠ .text p) → ts = []) ∧
    ∀ t ∈ ts, t.Sound g := by
  induction ds generalizing ts with
  | nil => cases h; simp
  | cons d ds ih =>
    rw [trials] at h
    cases ht : g.trial? source d with
    | error e => rw [ht] at h; cases h
    | ok t =>
      cases hts : g.trials source ds with
      | error e => rw [ht, hts] at h; cases h
      | ok us =>
        rw [ht, hts] at h
        cases h
        obtain ⟨hm, hnil, hb⟩ := ih hts
        obtain ⟨htm, htnone, htb⟩ := trial?_ok ht
        refine ⟨fun p hp => ?_, fun hn => ?_, ?_⟩
        · rw [List.map_append, htm p hp, hm p hp, List.filter_cons]
          split_ifs <;> rfl
        · rw [htnone hn, hnil hn]
          rfl
        · intro u hu
          rcases List.mem_append.mp hu with hu | hu
          · exact htb u (Option.mem_toList.mp hu)
          · exact hb u hu

theorem trialsOf_ok {header text : Text} {ts : List Trial}
    (ht : readHeader tree header = .ok text) (h : g.trialsOf header text = .ok ts) :
    ts.map (fun t => (t.source, t.declaration)) = (g.declared tree header).map (header, ·) ∧
      ∀ t ∈ ts, t.Sound g := by
  unfold trialsOf at h
  split at h
  · next mark hm =>
    obtain ⟨hp, hn, hs⟩ := trials_ok h
    refine ⟨?_, hs⟩
    unfold declared
    rw [hm, ht]
    split
    · next hm' hp' ht' =>
      cases hm'
      cases ht'
      exact hp _ hp'
    · next hne =>
      have hnil : ts = [] := hn (fun p hp' => hne mark p text rfl hp' rfl)
      rw [hnil]
      rfl
  · next hm =>
    split_ifs at h
    cases h
    refine ⟨?_, by simp⟩
    unfold declared
    rw [hm]
    rfl

theorem definitionsOf_ok {header text : Text} {ds : List Definition}
    (ht : readHeader tree header = .ok text) (h : g.definitionsOf header text = .ok ds) :
    ds.map (fun d => (d.name, d.value)) = g.extracted tree header := by
  unfold extracted
  unfold definitionsOf at h
  rw [ht]
  dsimp only
  cases hx : (Constant.extract g.expander header text).result with
  | ok pairs =>
    rw [hx] at h
    cases h
    simp [Table.definitionsOf, Function.comp_def]
  | error e =>
    rw [hx] at h
    rcases e with ⟨⟨failure⟩ | ⟨cause⟩ | _ | ⟨_⟩ | ⟨_⟩⟩ | ⟨_, expected, found⟩ | ⟨cause⟩
    · dsimp only at h
      split_ifs at h
      cases h
      rfl
    · cases h
    · cases h
    · cases h
    · cases h
    · cases h
    · cases h

/-- An account that goes on with a header has read it, and adds what it gives. -/
theorem account_ok {a b : Account} {header : Text} (h : g.account tree a header = .ok b) :
    ∃ text ds ts, readHeader tree header = .ok text ∧ g.definitionsOf header text = .ok ds ∧
      ds.all a.table.yieldsReadably = true ∧ g.trialsOf header text = .ok ts ∧
      b = (a.next.define ds).add ts := by
  unfold account at h
  cases ht : readHeader tree header with
  | error e => rw [ht] at h; cases h
  | ok text =>
    simp only [ht] at h
    cases hd : g.definitionsOf header text with
    | error e => rw [hd] at h; cases h
    | ok ds =>
      simp only [hd, Account.defined] at h
      split_ifs at h with hall
      · cases hs : g.trialsOf header text with
        | error e => rw [hs] at h; cases h
        | ok ts =>
          rw [hs] at h
          cases h
          exact ⟨text, ds, ts, rfl, hd, hall, hs, rfl⟩
      · cases h

/-- What an account holds after some headers. -/
structure Covers (g : Generator) (tree : Files.Tree) (before : List Text) (a : Account) :
    Prop where
  headers : a.headers = before.length
  definitions : a.definitions.map (fun d => (d.name, d.value)) =
    before.flatMap (g.extracted tree)
  trials : a.trials.map (fun t => (t.source, t.declaration)) =
    before.flatMap fun header => (g.declared tree header).map (header, ·)
  sound : ∀ t ∈ a.trials, t.Sound g

theorem covers_account {a b : Account} {before : List Text} {header : Text}
    (hc : Covers g tree before a) (h : g.account tree a header = .ok b) :
    Covers g tree (before ++ [header]) b := by
  obtain ⟨text, ds, ts, ht, hd, -, hs, rfl⟩ := account_ok h
  obtain ⟨hm, hso⟩ := trialsOf_ok ht hs
  refine ⟨?_, ?_, ?_, ?_⟩
  · simp [Account.add, Account.define, Account.next, hc.headers]
  · simp [Account.add, Account.define, Account.next, hc.definitions, definitionsOf_ok ht hd]
  · simp [Account.add, Account.define, Account.next, hc.trials, hm]
  · intro t htm
    rcases List.mem_append.mp htm with htm | htm
    · exact hc.sound t htm
    · exact hso t htm

theorem covers_foldlM {a b : Account} {before headers : List Text} (hc : Covers g tree before a)
    (h : headers.foldlM (g.account tree) a = .ok b) : Covers g tree (before ++ headers) b := by
  induction headers generalizing a before with
  | nil => cases h; simpa using hc
  | cons header headers ih =>
    rw [List.foldlM_cons] at h
    cases ha : g.account tree a header with
    | error s => rw [ha] at h; cases h
    | ok a' =>
      rw [ha] at h
      simpa using ih (covers_account hc ha) h

theorem covers_run {a : Account} {headers : List Text}
    (h : headers.foldlM (g.account tree) .empty = .ok a) : Covers g tree headers a := by
  have hempty : Covers g tree [] .empty := ⟨rfl, rfl, rfl, by simp [Account.empty]⟩
  simpa using covers_foldlM hempty h

end Generator

/-! ### What has become of the declarations -/

/-- The fate of a declaration is about that declaration, and a duplicate gives way to a binding of
its name that is kept. -/
def Handled.Fits (g : Generator) (kept : List BoundFunction) (h : Handled) : Prop :=
  match h.fate with
  | .registered f => Binds g h.source h.declaration f
  | .duplicated f first =>
    Binds g h.source h.declaration f ∧ first ∈ kept ∧ first.name = f.name
  | .skipped _ => True

theorem Handled.binds_of_fits {g : Generator} {kept : List BoundFunction} {h : Handled}
    {f : BoundFunction} (hfits : h.Fits g kept) (hf : h.binding? = some f) :
    Binds g h.source h.declaration f := by
  obtain ⟨source, d, fate⟩ := h
  cases fate with
  | registered f' => cases hf; exact hfits
  | duplicated f' first => cases hf
  | skipped cause => cases hf

theorem functions_after (r : Register) (t : Trial) :
    (r.after t).functions =
      r.functions ++ (Handled.binding? ⟨t.source, t.declaration, t.fate r⟩).toList := by
  unfold Register.after Trial.fate
  cases t.result with
  | error cause => simp [Handled.binding?]
  | ok f =>
    dsimp only
    cases hf : r.find? f.name with
    | some first => simp [Register.add, hf, Handled.binding?]
    | none => simp [Register.add, hf, Handled.binding?]

/-- The register holds what was registered, in order. -/
theorem functions_foldl_after (r : Register) (ts : List Trial) :
    (ts.foldl Register.after r).functions =
      r.functions ++ (handledFrom r ts).filterMap Handled.binding? := by
  induction ts generalizing r with
  | nil => simp [handledFrom]
  | cons t ts ih =>
    rw [List.foldl_cons, ih, functions_after, handledFrom, List.filterMap_cons, List.append_assoc]
    cases Handled.binding? ⟨t.source, t.declaration, t.fate r⟩ <;> rfl

theorem fits_handledFrom {g : Generator} (r : Register) {ts : List Trial}
    (hs : ∀ t ∈ ts, t.Sound g) :
    ∀ h ∈ handledFrom r ts, h.Fits g (ts.foldl Register.after r).functions := by
  induction ts generalizing r with
  | nil => simp [handledFrom]
  | cons t ts ih =>
    intro h hm
    rcases List.mem_cons.mp hm with rfl | hm
    · -- the binding that a duplicate gives way to stays in the register
      have hkept : ∀ f ∈ r.functions, f ∈ ((t :: ts).foldl Register.after r).functions := by
        intro f hf
        rw [functions_foldl_after]
        exact List.mem_append_left _ hf
      unfold Handled.Fits Trial.fate
      cases hr : t.result with
      | error cause => trivial
      | ok f =>
        have hb : Binds g t.source t.declaration f := hs t List.mem_cons_self f hr
        dsimp only
        cases hf : r.find? f.name with
        | none => exact hb
        | some first =>
          exact ⟨hb, hkept _ (List.mem_of_find?_eq_some hf), by simpa using List.find?_some hf⟩
    · exact ih (r.after t) (fun u hu => hs u (List.mem_cons_of_mem _ hu)) h hm

theorem declarations_handledFrom (r : Register) (ts : List Trial) :
    (handledFrom r ts).map (fun h => (h.source, h.declaration)) =
      ts.map fun t => (t.source, t.declaration) := by
  induction ts generalizing r with
  | nil => rfl
  | cons t ts ih => simp only [handledFrom, List.map_cons, ih]

theorem length_bindings (hs : List Handled) :
    (hs.filterMap Handled.binding?).length = hs.countP Handled.isRegistered := by
  rw [List.length_filterMap_eq_countP]
  refine List.countP_congr (fun h _ => ?_)
  rcases h with ⟨source, d, _ | _ | _⟩ <;> simp [Handled.binding?, Handled.isRegistered]

/-- Every declaration is counted in one of three ways. -/
theorem length_eq_counts (hs : List Handled) :
    hs.length = hs.countP Handled.isRegistered + hs.countP Handled.isSkipped +
      hs.countP Handled.isDuplicated := by
  induction hs with
  | nil => rfl
  | cons h hs ih =>
    rcases h with ⟨source, d, _ | _ | _⟩ <;>
      simp [List.countP_cons, Handled.isRegistered, Handled.isSkipped,
        Handled.isDuplicated] at * <;>
      omega

/-- The bindings that trials give, whether or not they are registered. -/
def boundBy (ts : List Trial) : List BoundFunction := ts.filterMap (·.result.toOption)

theorem foldl_after_eq (r : Register) (ts : List Trial) :
    ts.foldl Register.after r = (boundBy ts).foldl (fun r f => (r.add f).1) r := by
  induction ts generalizing r with
  | nil => rfl
  | cons t ts ih =>
    rw [List.foldl_cons, ih]
    simp only [boundBy, List.filterMap_cons, Register.after]
    cases t.result <;> rfl

/-- The register of an account holds the first binding of every name. -/
theorem Account.functions_register (a : Account) :
    a.register.functions = firsts BoundFunction.name (boundBy a.trials) := by
  rw [register, foldl_after_eq, FirstWins.foldl_add_functions]
  simp [Register.empty]

theorem Account.definitions_table (a : Account) :
    a.table.definitions = firsts Definition.name a.definitions := by
  rw [table, FirstWins.merge_definitions]
  simp [Table.empty]

theorem Account.size_table (a : Account) :
    a.table.size + a.table.collisions.length = a.definitions.length := by
  rw [table, FirstWins.size_merge]
  simp [Table.empty, Table.size]

theorem Account.entries_table (a : Account) :
    a.table.entries = firsts Prod.fst (a.definitions.map fun d => (d.name, d.value)) := by
  rw [Table.entries, definitions_table, FirstWins.firsts_map]

/-! ### The balance -/

/-- How the log and the result of a run agree with what its headers declare and define. -/
structure Balanced (g : Generator) (tree : Files.Tree) (headers : List Text) (log : List Event)
    (r : Result) : Prop where
  headers_eq : r.statistics.headers = headers.length
  declarations_eq : r.statistics.declarations =
    r.statistics.registered + r.statistics.skipped + r.statistics.duplicates
  registered_eq : r.statistics.registered = r.bindings.length
  nodup : (r.bindings.map (·.name)).Nodup
  native_eq : ∀ f ∈ r.bindings, ∃ p, g.rules.libraryPrefix = .text p ∧ f.nativeName = p ++ f.name
  /-- The prefixed declarations, each with its fate: a binding of the result or a warning. -/
  handled : ∃ hs : List Handled,
    hs.map (fun h => (h.source, h.declaration)) =
      headers.flatMap (fun header => (g.declared tree header).map (header, ·)) ∧
    (∀ h ∈ hs, h.Fits g r.bindings) ∧
    r.bindings = hs.filterMap Handled.binding? ∧
    log.filter isEmitterWarning = hs.filterMap Handled.warning?
  constants_eq : r.statistics.constants = r.constants.length
  collisions_eq : r.statistics.constants + r.statistics.collisions =
    (headers.flatMap (g.extracted tree)).length
  entries_eq : r.constants = firsts Prod.fst (headers.flatMap (g.extracted tree))
  exported_eq : r.exported =
    if r.constants = [] then none else some ⟨g.tableName, r.constants⟩

/-- Every run that ends with a result balances. -/
theorem run_balanced {g : Generator} {tree : Files.Tree} {headers : List Text}
    {log : List Event} {r : Result} (h : g.run tree headers = ⟨log, .ok r⟩) :
    Balanced g tree headers log r := by
  obtain ⟨a, ha, rfl, hl⟩ := Generator.run_ok g tree h
  have hc := Generator.covers_run ha
  have hfun : a.register.functions = a.handled.filterMap Handled.binding? := by
    rw [Account.register, functions_foldl_after]
    rfl
  have hfits : ∀ h ∈ a.handled, h.Fits g a.register.functions := fits_handledFrom _ hc.sound
  have hsize : a.table.size = a.table.entries.length := by simp [Table.size, Table.entries]
  exact {
    headers_eq := hc.headers
    declarations_eq := length_eq_counts _
    registered_eq := (length_bindings a.handled).symm.trans (congrArg List.length hfun.symm)
    nodup := by
      show (a.register.functions.map BoundFunction.name).Nodup
      rw [Account.functions_register]
      exact FirstWins.nodup_keys_firsts _ _
    native_eq := by
      intro f hf
      have hf' : f ∈ a.handled.filterMap Handled.binding? := hfun ▸ hf
      obtain ⟨h, hm, hb⟩ := List.mem_filterMap.mp hf'
      exact (Handled.binds_of_fits (hfits h hm) hb).short
    handled := ⟨a.handled, (declarations_handledFrom _ _).trans hc.trials, hfits, hfun, hl⟩
    constants_eq := hsize
    collisions_eq := by
      rw [← hc.definitions, List.length_map]
      exact a.size_table
    entries_eq := by rw [← hc.definitions]; exact a.entries_table
    exported_eq := by
      simp only [Generator.resultOf, hsize, List.length_eq_zero_iff] }

/-- A generator whose expander gives every macro the value one. -/
def Generator.ones : Generator where
  exportMark := .text ['E']
  rules := ⟨.text "cv".toList, "res".toList, true, ⟨[], [], []⟩, []⟩
  expander := fun _ names => ⟨[], .ok (names.map fun _ => ['1'])⟩
  constantsRequired := true
  tableName := .text ['T']

/-- A constant, a function, and a function of an unknown type. -/
def smallHeader : Text := "#define K 1\nE(void) cva();E(u) cvb();".toList

def smallTree : Files.Tree := ⟨[], [], [([['a']], Text.Utf8.encode smallHeader)], []⟩

theorem ones_run_balanced : ∃ log r, Generator.ones.run smallTree [['a'], ['a']] = ⟨log, .ok r⟩ ∧
    r.statistics = ⟨2, 4, 1, 2, 1, 1, 1⟩ ∧
    Balanced Generator.ones smallTree [['a'], ['a']] log r := by
  have hs : (Generator.ones.run smallTree [['a'], ['a']]).result.toOption.map (·.statistics) =
      some ⟨2, 4, 1, 2, 1, 1, 1⟩ := by decide +kernel
  rcases hrun : Generator.ones.run smallTree [['a'], ['a']] with ⟨log, e | r⟩
  · rw [hrun] at hs
    cases hs
  · rw [hrun] at hs
    exact ⟨log, r, rfl, Option.some.inj hs, run_balanced hrun⟩

end HeaderBindings.Binding
