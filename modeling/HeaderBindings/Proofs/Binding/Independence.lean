import HeaderBindings.Proofs.Binding.Accounting
import HeaderBindings.Proofs.Constant.Extraction
import HeaderBindings.Proofs.Steps

/-!
# Constants and bindings do not interfere

What a header gives to the table hangs on its text, on the expander and on whether constants are
required; what it gives to the register hangs on its text, on the export mark and on the rules. A
run that ends with a result is put together from what its headers give. So two runs that differ in
one of the two kinds of settings only agree on what comes of the other kind, whatever either of them
leaves out. And where constants are not required, a header that cannot be expanded counts for as
much as one whose expansions have no value.
-/
namespace HeaderBindings.Binding

open Constant (Definition Table)
open Preprocessor (Expander)

namespace Generator
variable {g : Generator} {tree : Files.Tree}

/-! ### What a header gives -/

/-- The definitions of a header in a run that goes on after it. -/
def definedIn (g : Generator) (tree : Files.Tree) (header : Text) : List Definition :=
  match readHeader tree header with
  | .ok text => (g.definitionsOf header text).toOption.getD []
  | .error _ => []

/-- The trials of a header in a run that goes on after it. -/
def triedIn (g : Generator) (tree : Files.Tree) (header : Text) : List Trial :=
  match readHeader tree header with
  | .ok text => (g.trialsOf header text).toOption.getD []
  | .error _ => []

/-- What some headers give to a run that takes them all. -/
def accountOf (g : Generator) (tree : Files.Tree) (headers : List Text) : Account :=
  ⟨headers.length, headers.flatMap (g.definedIn tree), headers.flatMap (g.triedIn tree)⟩

theorem account_eq_append {a b : Account} {header : Text} (h : g.account tree a header = .ok b) :
    b = a.append (g.accountOf tree [header]) := by
  obtain ⟨text, ds, ts, ht, hd, -, hs, rfl⟩ := account_ok h
  have hdefined : g.definedIn tree header = ds := by simp [definedIn, ht, hd, Except.toOption]
  have htried : g.triedIn tree header = ts := by simp [triedIn, ht, hs, Except.toOption]
  simp [Account.append, Account.add, Account.define, Account.next, accountOf, hdefined, htried]

theorem foldlM_account_eq_append {a b : Account} {headers : List Text}
    (h : headers.foldlM (g.account tree) a = .ok b) : b = a.append (g.accountOf tree headers) := by
  induction headers generalizing a with
  | nil =>
    cases h
    simp [Account.append, accountOf]
  | cons header headers ih =>
    rw [List.foldlM_cons, bind_eq_ok_iff] at h
    obtain ⟨c, hc, h⟩ := h
    rw [ih h, account_eq_append hc]
    have hlength : a.headers + 1 + headers.length = a.headers + (headers.length + 1) := by omega
    simp [Account.append, accountOf, hlength]

/-- A result is that of what the headers give. -/
theorem result_eq_resultOf {headers : List Text} {r : Result}
    (h : (g.run tree headers).result = .ok r) : r = g.resultOf (g.accountOf tree headers) := by
  rw [result_run] at h
  split at h
  · next a ha =>
    cases h
    rw [foldlM_account_eq_append ha]
    simp [Account.append, Account.empty]
  · cases h

/-! ### What it hangs on -/

theorem trials_with (x : Expander) (required : Bool) (source : Text)
    (ds : List Header.Declaration) :
    { g with expander := x, constantsRequired := required }.trials source ds =
      g.trials source ds := by
  induction ds with
  | nil => rfl
  | cons d ds ih =>
    rw [trials, trials, ih]
    rfl

/-- How macros are expanded is nothing to the trials. -/
theorem triedIn_with (x : Expander) (required : Bool) :
    { g with expander := x, constantsRequired := required }.triedIn tree = g.triedIn tree := by
  funext header
  simp only [triedIn, trialsOf, trials_with]

/-- How declarations are bound is nothing to the definitions. -/
theorem definedIn_with (mark : Datum) (rules : Rules) :
    { g with exportMark := mark, rules := rules }.definedIn tree = g.definedIn tree := rfl

end Generator

/-! ### Headers that cannot be expanded -/

/-- A text that is read to its end and has no value. -/
def HasNoValue (expansion : Text) : Prop :=
  Constant.literalValue? expansion = none ∧ (Constant.judge expansion).exhaustion? = none

/-- An expander that answers for some headers as another does, but gives expansions without a value
where the other fails. -/
def StandsInFor (x y : Expander) (headers : List Text) : Prop :=
  ∀ header ∈ headers, ∀ names, (y header names).result = (x header names).result ∨
    (∃ failure, (x header names).result = .error (.failed failure)) ∧
      ∃ expansions, (y header names).result = .ok expansions ∧
        expansions.length = names.length ∧ ∀ e ∈ expansions, HasNoValue e

theorem constantsOf_eq_nil {names expansions : List Text} (h : ∀ e ∈ expansions, HasNoValue e) :
    Constant.constantsOf names expansions = [] := by
  unfold Constant.constantsOf
  rw [List.filterMap_eq_nil_iff]
  intro p hp
  rw [(h p.2 (List.of_mem_zip hp).2).1]
  rfl

namespace Generator
variable {g : Generator} {tree : Files.Tree}

/-- A header that cannot be expanded gives what one without values gives. -/
theorem definitionsOf_standIn (hg : g.constantsRequired = false) {y : Expander}
    {headers : List Text} (h : StandsInFor g.expander y headers) {header : Text}
    (hm : header ∈ headers) (text : Text) :
    { g with expander := y }.definitionsOf header text = g.definitionsOf header text := by
  by_cases hc : Constant.candidates text = []
  · simp only [definitionsOf, Constant.result_extract_of_nil hc]
  · rcases h header hm (Constant.candidates text) with hxy | ⟨⟨failure, hx⟩, es, hy, hlen, hes⟩
    · simp only [definitionsOf, Constant.result_extract_congr (x := y) (y := g.expander) hxy]
    · have hnone : es.findSome? (fun e => (Constant.judge e).exhaustion?) = none :=
        List.findSome?_eq_none_iff.mpr (fun e he => (hes e he).2)
      have hidle : (Constant.extract y header text).result = .ok [] := by
        rw [Constant.result_extract hc hy, if_neg (by simpa using hlen), hnone]
        simp only [constantsOf_eq_nil hes]
      have hfailed := Constant.result_extract_of_error hc hx
      simp only [definitionsOf, hidle, hfailed, hg]
      rfl

theorem account_standIn (hg : g.constantsRequired = false) {y : Expander} {headers : List Text}
    (h : StandsInFor g.expander y headers) {header : Text} (hm : header ∈ headers) (a : Account) :
    { g with expander := y }.account tree a header = g.account tree a header := by
  have htrials : ∀ text, { g with expander := y }.trialsOf header text = g.trialsOf header text := by
    intro text
    simp only [trialsOf, trials_with]
  unfold account
  cases readHeader tree header with
  | error e => rfl
  | ok text => simp only [definitionsOf_standIn hg h hm text, htrials]

/-- The accounts of the two runs go on alike. -/
theorem foldlM_account_standIn (hg : g.constantsRequired = false) {y : Expander}
    {headers : List Text} (h : StandsInFor g.expander y headers) (a : Account) :
    headers.foldlM ({ g with expander := y }.account tree) a =
      headers.foldlM (g.account tree) a := by
  induction headers generalizing a with
  | nil => rfl
  | cons header headers ih =>
    rw [List.foldlM_cons, List.foldlM_cons, account_standIn hg h List.mem_cons_self]
    exact congrArg _ (funext (ih fun k hk => h k (List.mem_cons_of_mem _ hk)))

end Generator

/-! ### Two runs -/

/-- Two results that agree on everything about bindings. -/
structure SameBindings (r r' : Result) : Prop where
  bindings_eq : r'.bindings = r.bindings
  headers_eq : r'.statistics.headers = r.statistics.headers
  declarations_eq : r'.statistics.declarations = r.statistics.declarations
  registered_eq : r'.statistics.registered = r.statistics.registered
  skipped_eq : r'.statistics.skipped = r.statistics.skipped
  duplicates_eq : r'.statistics.duplicates = r.statistics.duplicates

/-- Two results that agree on everything about constants. -/
structure SameConstants (r r' : Result) : Prop where
  constants_eq : r'.constants = r.constants
  size_eq : r'.statistics.constants = r.statistics.constants
  collisions_eq : r'.statistics.collisions = r.statistics.collisions
  exported_eq : r'.exported = r.exported

theorem sameBindings_resultOf (g g' : Generator) {a a' : Account}
    (hh : a'.headers = a.headers) (ht : a'.trials = a.trials) :
    SameBindings (g.resultOf a) (g'.resultOf a') := by
  have hhandled : a'.handled = a.handled := by rw [Account.handled, Account.handled, ht]
  have hregister : a'.register = a.register := by rw [Account.register, Account.register, ht]
  constructor <;> simp only [Generator.resultOf, Account.statistics, hhandled, hregister, hh]

theorem sameConstants_resultOf {g g' : Generator} (hg : g'.tableName = g.tableName)
    {a a' : Account} (hd : a'.definitions = a.definitions) :
    SameConstants (g.resultOf a) (g'.resultOf a') := by
  have htable : a'.table = a.table := by rw [Account.table, Account.table, hd]
  constructor <;> simp only [Generator.resultOf, htable, hg]

/-- Runs that end with a result agree on the bindings when they differ only in how macros are
expanded, and on the constants when they differ only in what is bound and how. Where constants are
not required, an expander that fails for some headers has the effect of one that finds no value in
them, whether or not the run ends with a result. -/
theorem run_independent (g : Generator) (tree : Files.Tree) (headers : List Text) :
    (∀ (x : Expander) (required : Bool) (r r' : Result),
      (g.run tree headers).result = .ok r →
      ({ g with expander := x, constantsRequired := required }.run tree headers).result = .ok r' →
      SameBindings r r') ∧
    (∀ (mark : Datum) (rules : Rules) (r r' : Result),
      (g.run tree headers).result = .ok r →
      ({ g with exportMark := mark, rules := rules }.run tree headers).result = .ok r' →
      SameConstants r r') ∧
    ∀ y : Expander, g.constantsRequired = false → StandsInFor g.expander y headers →
      ({ g with expander := y }.run tree headers).result = (g.run tree headers).result := by
  refine ⟨fun x required r r' h h' => ?_, fun mark rules r r' h h' => ?_, fun y hg hy => ?_⟩
  · rw [Generator.result_eq_resultOf h, Generator.result_eq_resultOf h']
    refine sameBindings_resultOf _ _ rfl ?_
    simp only [Generator.accountOf, Generator.triedIn_with]
  · rw [Generator.result_eq_resultOf h, Generator.result_eq_resultOf h']
    refine sameConstants_resultOf rfl ?_
    simp only [Generator.accountOf, Generator.definedIn_with]
  · rw [Generator.result_run, Generator.result_run, Generator.foldlM_account_standIn hg hy]
    rfl

/-- An expander that finds a letter in every macro. -/
def letters : Expander := fun _ names => ⟨[], .ok (names.map fun _ => ['x'])⟩

/-- An expander that always fails. -/
def unfound : Expander := fun header _ => ⟨[], .error (.failed ⟨.notFound [], header, []⟩)⟩

theorem standsInFor_unfound (headers : List Text) : StandsInFor unfound letters headers := by
  refine fun header _ names => .inr ⟨⟨_, rfl⟩, _, rfl, List.length_map _, fun e he => ?_⟩
  obtain ⟨_, _, rfl⟩ := List.mem_map.mp he
  exact ⟨rfl, rfl⟩

/-- A generator that binds what the small header declares and needs none of its constants. -/
def Generator.lenient (x : Expander) : Generator :=
  { Generator.ones with expander := x, constantsRequired := false }

/-- A generator that finds the constant of the small header and looks for other functions. -/
def Generator.elsewhere : Generator :=
  { Generator.ones with
    exportMark := .text ['F'], rules := ⟨.text ['f'], [], true, ⟨[], [], []⟩, []⟩ }

/-- The function of the small header is bound whatever becomes of its constant, and the constant is
found whatever becomes of the function. -/
theorem ones_run_independent : ∃ r₁ r₂ r₃,
    (Generator.ones.run smallTree [['a']]).result = .ok r₁ ∧
    ((Generator.lenient letters).run smallTree [['a']]).result = .ok r₂ ∧ SameBindings r₁ r₂ ∧
    (Generator.elsewhere.run smallTree [['a']]).result = .ok r₃ ∧ SameConstants r₁ r₃ ∧
    ((Generator.lenient letters).run smallTree [['a']]).result =
      ((Generator.lenient unfound).run smallTree [['a']]).result := by
  have hok {x : Except Failure Result} (h : x.toOption.isSome = true) : ∃ r, x = .ok r := by
    cases x with
    | error e => cases h
    | ok r => exact ⟨r, rfl⟩
  obtain ⟨r₁, h₁⟩ := hok (x := (Generator.ones.run smallTree [['a']]).result) (by decide +kernel)
  obtain ⟨r₂, h₂⟩ := hok (x := ((Generator.lenient letters).run smallTree [['a']]).result)
    (by decide +kernel)
  obtain ⟨r₃, h₃⟩ := hok (x := (Generator.elsewhere.run smallTree [['a']]).result)
    (by decide +kernel)
  exact ⟨r₁, r₂, r₃, h₁, h₂,
    (run_independent Generator.ones smallTree [['a']]).1 _ _ _ _ h₁ h₂, h₃,
    (run_independent Generator.ones smallTree [['a']]).2.1 _ _ _ _ h₁ h₃,
    (run_independent (Generator.lenient unfound) smallTree [['a']]).2.2 letters rfl
      (standsInFor_unfound _)⟩

end HeaderBindings.Binding
