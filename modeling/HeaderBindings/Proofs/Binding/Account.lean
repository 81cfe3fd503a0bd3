import HeaderBindings.Binding.Run
import HeaderBindings.Proofs.FirstWins
import Mathlib.Data.List.TakeDrop
import Mathlib.Data.List.TakeWhile

/-!
# The account of a run

What a header gives to a run does not hang on the headers before it: the definitions of its
constants, and each of its prefixed declarations with a binding or the cause of its rejection. An
account takes this up header by header. It keeps every declaration with what became of it, and the
counters and warnings of a run are read off that list. The main statement is that a run and its
account end alike and agree on the table, the register, the counters and the warnings.
-/
namespace HeaderBindings.Binding

open Argument (Rejection)
open Constant (Definition Table Value)
open Header (Declaration)
open Log (Event Place)

/-- A declaration that was tried, with its binding or the cause of its rejection. -/
structure Trial where
  source : Text
  declaration : Declaration
  result : Except Rejection BoundFunction

/-- What has become of a declaration. -/
inductive Fate
  | registered (f : BoundFunction)
  | duplicated (f first : BoundFunction)
  | skipped (cause : Rejection)

structure Handled where
  source : Text
  declaration : Declaration
  fate : Fate

namespace Handled

def isRegistered (h : Handled) : Bool := h.fate matches .registered _

def isSkipped (h : Handled) : Bool := h.fate matches .skipped _

def isDuplicated (h : Handled) : Bool := h.fate matches .duplicated _ _

/-- The binding that was registered for the declaration. -/
def binding? (h : Handled) : Option BoundFunction :=
  match h.fate with
  | .registered f => some f
  | _ => none

/-- The warning that was given of the declaration. -/
def warning? (h : Handled) : Option Event :=
  match h.fate with
  | .registered _ => none
  | .duplicated f first => some (.bindingDuplicated f.name f.place first.place)
  | .skipped cause => some (.declarationSkipped h.declaration.name
      ⟨h.source, h.declaration.line⟩ cause)

end Handled

/-- Whether an event is a warning of the emitter. -/
def isEmitterWarning (e : Event) : Bool := e.level = .warning && e.channel = "core.emitter"

def Trial.fate (t : Trial) (r : Register) : Fate :=
  match t.result with
  | .error cause => .skipped cause
  | .ok f =>
    match r.find? f.name with
    | some first => .duplicated f first
    | none => .registered f

/-- The register after a trial. -/
def Register.after (r : Register) (t : Trial) : Register :=
  match t.result with
  | .ok f => (r.add f).1
  | .error _ => r

/-- The counters after one more declaration. -/
def Fate.count (s : Statistics) : Fate → Statistics
  | .registered _ =>
    { s with declarations := s.declarations + 1, registered := s.registered + 1 }
  | .duplicated _ _ =>
    { s with declarations := s.declarations + 1, duplicates := s.duplicates + 1 }
  | .skipped _ => { s with declarations := s.declarations + 1, skipped := s.skipped + 1 }

/-- What has become of trials that follow one another. -/
def handledFrom : Register → List Trial → List Handled
  | _, [] => []
  | r, t :: ts => ⟨t.source, t.declaration, t.fate r⟩ :: handledFrom (r.after t) ts

theorem handledFrom_append (r : Register) (ts us : List Trial) :
    handledFrom r (ts ++ us) =
      handledFrom r ts ++ handledFrom (ts.foldl Register.after r) us := by
  induction ts generalizing r with
  | nil => rfl
  | cons t ts ih => simp only [List.cons_append, handledFrom, List.foldl_cons, ih]

/-- Everything that a run was given: how many headers, and what they gave, in order. -/
structure Account where
  headers : ℕ
  definitions : List Definition
  trials : List Trial

namespace Account

def empty : Account := ⟨0, [], []⟩

def append (a b : Account) : Account :=
  ⟨a.headers + b.headers, a.definitions ++ b.definitions, a.trials ++ b.trials⟩

/-- The account with one more header. -/
def next (a : Account) : Account := { a with headers := a.headers + 1 }

def define (a : Account) (ds : List Definition) : Account :=
  { a with definitions := a.definitions ++ ds }

def add (a : Account) (ts : List Trial) : Account := { a with trials := a.trials ++ ts }

def table (a : Account) : Table := (Table.empty.merge a.definitions).1

def register (a : Account) : Register := a.trials.foldl Register.after .empty

def handled (a : Account) : List Handled := handledFrom .empty a.trials

def statistics (a : Account) : Statistics where
  headers := a.headers
  declarations := a.handled.length
  registered := a.handled.countP Handled.isRegistered
  skipped := a.handled.countP Handled.isSkipped
  duplicates := a.handled.countP Handled.isDuplicated
  constants := 0
  collisions := 0

@[simp] theorem table_add (a : Account) (ts : List Trial) : (a.add ts).table = a.table := rfl

@[simp] theorem table_define (a : Account) (ds : List Definition) :
    (a.define ds).table = (a.table.merge ds).1 := FirstWins.merge_append _ _ _

theorem register_add (a : Account) (t : Trial) :
    (a.add [t]).register = a.register.after t := by
  simp [register, add]

theorem handled_add (a : Account) (t : Trial) :
    (a.add [t]).handled = a.handled ++ [⟨t.source, t.declaration, t.fate a.register⟩] := by
  rw [handled, add, handledFrom_append]
  rfl

theorem statistics_add (a : Account) (t : Trial) :
    (a.add [t]).statistics = (t.fate a.register).count a.statistics := by
  rw [statistics, handled_add]
  simp only [List.countP_append, List.countP_singleton, List.length_append,
    List.length_singleton]
  cases t.fate a.register <;> rfl

theorem warnings_add (a : Account) (t : Trial) :
    (a.add [t]).handled.filterMap Handled.warning? = a.handled.filterMap Handled.warning? ++
      (Handled.warning? ⟨t.source, t.declaration, t.fate a.register⟩).toList := by
  rw [handled_add, List.filterMap_append]
  cases t.fate a.register <;> rfl

@[simp] theorem define_nil (a : Account) : a.define [] = a := by simp [define]

@[simp] theorem add_nil (a : Account) : a.add [] = a := by simp [add]

theorem add_add (a : Account) (ts us : List Trial) : (a.add ts).add us = a.add (ts ++ us) := by
  simp [add]

/-- What a context shows of an account. Of its log only the warnings of the emitter count. -/
structure ShownBy (a : Account) (c : Context) : Prop where
  table : c.table = a.table
  register : c.register = a.register
  statistics : c.statistics = a.statistics
  warnings : c.log.filter isEmitterWarning = a.handled.filterMap Handled.warning?

theorem shownBy_empty : empty.ShownBy .empty := ⟨rfl, rfl, rfl, rfl⟩

/-- Why an account ends early, with the table as it is then. -/
structure Stop where
  failure : Failure
  table : Table

/-- The definitions up to the first that gives way to a value without a text. -/
def taken (t : Table) (ds : List Definition) : List Definition :=
  ds.takeWhile t.yieldsReadably ++ (ds.dropWhile t.yieldsReadably).head?.toList

/-- The account with the definitions of its last header. -/
def defined (a : Account) : Except Failure (List Definition) → Except Stop Account
  | .error e => .error ⟨e, a.table⟩
  | .ok ds =>
    if ds.all a.table.yieldsReadably then .ok (a.define ds)
    else .error ⟨.unwritable, (a.table.merge (taken a.table ds)).1⟩

/-- The account with the trials of its last header. -/
def tried (a : Account) : Except Failure (List Trial) → Except Stop Account
  | .error e => .error ⟨e, a.table⟩
  | .ok ts => .ok (a.add ts)

/-- A run meets an account when both go on and agree, or both stop alike. -/
inductive MetBy : Progress → Except Stop Account → Prop
  | going {a : Account} {c : Context} (h : a.ShownBy c) : MetBy ⟨c, none⟩ (.ok a)
  | stopped {c : Context} {e : Failure} {t : Table} (h : c.table = t) :
    MetBy ⟨c, some e⟩ (.error ⟨e, t⟩)

/-- One part of a run after another. -/
theorem MetBy.bind {p : Progress} {r : Except Stop Account} (h : MetBy p r)
    {run : Context → Progress} {account : Account → Except Stop Account}
    (hrun : ∀ {a c}, a.ShownBy c → MetBy (run c) (account a)) :
    MetBy (match p with
      | ⟨c, none⟩ => run c
      | p => p) (r.bind account) := by
  cases h with
  | going hs => exact hrun hs
  | stopped ht => exact .stopped ht

end Account

namespace Generator
variable (g : Generator) (tree : Files.Tree)

/-- The text of a header, if it can be read. -/
def readHeader (header : Text) : Except Failure Text :=
  (headerBytes tree (Files.Path.ofText header).write).map Header.ofBytes

/-- The definitions that a header gives; none if its macros cannot be expanded and need not be. -/
def definitionsOf (header text : Text) : Except Failure (List Definition) :=
  match (Constant.extract g.expander header text).result with
  | .ok pairs => .ok (Table.definitionsOf header pairs)
  | .error (.expansion (.misuse cause)) => .error (.misuse cause)
  | .error (.expansion .nulInPath) => .error (.unreachable ⟨.nul, none⟩)
  | .error (.expansion (.unstarted message)) => .error (.processUnstarted message)
  | .error (.expansion (.unusable message)) => .error (.processUnusable message)
  | .error (.exhausted cause) => .error (.exhausted cause)
  | .error (.countMismatch header expected found) => .error (.countMismatch header expected found)
  | .error (.expansion (.failed failure)) =>
    if g.constantsRequired then .error (.preprocessor failure) else .ok []

/-- The trial of a declaration; one without the prefix of the library is not tried. -/
def trial? (source : Text) (d : Declaration) : Except Failure (Option Trial) :=
  match g.rules.shortName d.name with
  | .error (.misuse cause) => .error (.misuse cause)
  | .error (.rejected ⟨.foreignName _, _⟩) => .ok none
  | _ =>
    match (g.rules.bind source d).result with
    | .ok f => .ok (some ⟨source, d, .ok f⟩)
    | .error (.rejected cause) => .ok (some ⟨source, d, .error cause⟩)
    | .error (.misuse cause) => .error (.misuse cause)

def trials (source : Text) : List Declaration → Except Failure (List Trial)
  | [] => .ok []
  | d :: ds =>
    match g.trial? source d with
    | .error e => .error e
    | .ok t => (trials source ds).map (t.toList ++ ·)

def trialsOf (header text : Text) : Except Failure (List Trial) :=
  match g.exportMark.mark? with
  | some mark => g.trials header (Header.declarations mark text)
  | none => if g.exportMark.isMark then .ok [] else .error (.misuse .wrongKind)

/-- An account goes on with a header. -/
def account (a : Account) (header : Text) : Except Account.Stop Account :=
  match readHeader tree header with
  | .error e => .error ⟨e, a.table⟩
  | .ok text =>
    (a.next.defined (g.definitionsOf header text)).bind
      fun b => b.tried (g.trialsOf header text)

end Generator

/-! ### What a run reports -/

/-- Events without a warning of the emitter. -/
def Quiet (es : List Event) : Prop := ∀ e ∈ es, isEmitterWarning e = false

theorem quiet_singleton {e : Event} (h : isEmitterWarning e = false) : Quiet [e] := by
  intro e' he
  rwa [List.mem_singleton.mp he]

theorem Quiet.append {es fs : List Event} (he : Quiet es) (hf : Quiet fs) : Quiet (es ++ fs) := by
  intro e h
  rcases List.mem_append.mp h with h | h
  · exact he e h
  · exact hf e h

theorem filter_report (c : Context) {es : List Event} (h : Quiet es) :
    (c.report es).log.filter isEmitterWarning = c.log.filter isEmitterWarning := by
  have hn : es.filter isEmitterWarning = [] :=
    List.filter_eq_nil_iff.mpr (fun e he => by simp [h e he])
  simp [Context.report, hn]

theorem filter_report_warning (c : Context) {e : Event} (h : isEmitterWarning e = true) :
    (c.report [e]).log.filter isEmitterWarning = c.log.filter isEmitterWarning ++ [e] := by
  simp [Context.report, h]

theorem quiet_expansion (x : Preprocessor.Expansion) : Quiet x.events := by
  intro e he
  obtain ⟨i, _, rfl⟩ := List.mem_map.mp he
  rfl

theorem quiet_outcome (o : Constant.Outcome) : Quiet o.events := by
  cases o <;> simp [Quiet, Constant.Outcome.events] <;> rfl

theorem quiet_extract (expander : Preprocessor.Expander) (header text : Text) :
    Quiet (Constant.extract expander header text).events := by
  have hx := quiet_expansion
  unfold Constant.extract
  split
  · simp [Quiet]
  · dsimp only
    split
    · exact hx _
    · split_ifs
      · exact hx _
      · have ho : ∀ os : List Constant.Outcome, Quiet (os.flatMap Constant.Outcome.events) := by
          intro os e he
          obtain ⟨o, _, hm⟩ := List.mem_flatMap.mp he
          exact quiet_outcome o e hm
        split
        · exact (hx _).append (ho _)
        · exact ((hx _).append (ho _)).append (quiet_singleton rfl)

theorem quiet_bind (r : Rules) (source : Text) (d : Declaration) :
    Quiet (r.bind source d).events := by
  unfold Rules.bind
  split
  · simp [Quiet]
  · intro e he
    obtain ⟨p, _, rfl⟩ := List.mem_map.mp he
    rfl

theorem quiet_kept (t : Table) (ds : List Definition) : Quiet (ds.filterMap (keptEvent t)) := by
  intro e he
  obtain ⟨d, _, hd⟩ := List.mem_filterMap.mp he
  obtain ⟨first, _, rfl⟩ := Option.map_eq_some_iff.mp hd
  rfl

/-! ### One declaration -/

namespace Account

/-- Events without a warning change nothing of what a context shows. -/
theorem ShownBy.report {a : Account} {c : Context} (h : a.ShownBy c) {es : List Event}
    (hq : Quiet es) : a.ShownBy (c.report es) :=
  ⟨h.table, h.register, h.statistics, (filter_report c hq).trans h.warnings⟩

end Account

namespace Generator

/-- A name has a short form, or lacks the prefix, or the prefix is no string. -/
theorem shortName_cases (r : Rules) (name : Text) :
    (∃ p short, r.libraryPrefix = .text p ∧ Header.shortName? p name = some short ∧
      r.shortName name = .ok short) ∨
    (∃ p, (∀ q, r.libraryPrefix = .text q → Header.shortName? q name = none) ∧
      r.shortName name = .error (.rejected ⟨.foreignName p, name⟩)) ∨
    r.libraryPrefix.wide? = none ∧ r.shortName name = .error (.misuse .wrongKind) := by
  unfold Rules.shortName
  split
  · next p hp =>
    cases hs : Header.shortName? p name with
    | some short => exact .inl ⟨p, short, hp, hs, by simp only⟩
    | none =>
      refine .inr (.inl ⟨p, fun q hq => ?_, rfl⟩)
      rw [hp] at hq
      cases hq
      exact hs
  · next b hb =>
    refine .inr (.inl ⟨b.points.shown, fun q hq => ?_, rfl⟩)
    rw [hb] at hq
    cases hq
  · next hp hb =>
    refine .inr (.inr ⟨?_, rfl⟩)
    cases hd : r.libraryPrefix with
    | text p => exact absurd hd (hp p)
    | broken b => exact absurd hd (hb b)
    | _ => rfl

/-- What a binding is made of. -/
theorem bind_eq_ok {r : Rules} {source : Text} {d : Declaration} {f : BoundFunction}
    (h : (r.bind source d).result = .ok f) : ∃ p short arguments,
      r.libraryPrefix = .text p ∧ Header.shortName? p d.name = some short ∧
      Argument.classifyAll r.types r.returnName d.returnType d.arguments = .ok arguments ∧
      f = { name := short, nativeName := d.name, arguments := arguments
            parameters := Argument.Descriptor.signature arguments
            instantiations := r.instantiations
            plan := Call.Plan.ofDescriptors d.name arguments, place := ⟨source, d.line⟩ } := by
  unfold Rules.bind at h
  rcases shortName_cases r d.name with ⟨p, short, hp, hs, hr⟩ | ⟨p, -, hr⟩ | ⟨-, hr⟩
  · simp only [hr] at h
    split_ifs at h
    cases hc : Argument.classifyAll r.types r.returnName d.returnType d.arguments with
    | error e => rw [hc] at h; cases h
    | ok arguments =>
      rw [hc] at h
      cases h
      exact ⟨p, short, arguments, hp, hs, rfl, rfl⟩
  · simp only [hr] at h
    cases h
  · simp only [hr] at h
    cases h

/-- A context in which one more declaration is counted. -/
def counted (c : Context) : Context :=
  { c with statistics := { c.statistics with declarations := c.statistics.declarations + 1 } }

theorem shownBy_enter {a : Account} {c : Context} (h : a.ShownBy c) {t : Trial}
    {f : BoundFunction} (hf : t.result = .ok f) : (a.add [t]).ShownBy (enter f (counted c)) := by
  obtain ⟨ht, hr, hs, hw⟩ := h
  have hafter : a.register.after t = (a.register.add f).1 := by rw [Register.after, hf]
  cases hfind : a.register.find? f.name with
  | some first =>
    have hadd : a.register.add f = (a.register, some first) := by rw [Register.add, hfind]
    have hfate : t.fate a.register = .duplicated f first := by
      simp only [Trial.fate, hf, hfind]
    have he : enter f (counted c) = { c.report [Register.duplicateEvent f first] with
        statistics := (t.fate a.register).count c.statistics } := by
      simp only [enter, counted, hr, hadd, Context.report, hfate, Fate.count]
    rw [he]
    refine ⟨ht, ?_, ?_, ?_⟩
    · rw [Account.register_add, hafter, hadd]; exact hr
    · rw [Account.statistics_add, ← hs]
    · rw [Account.warnings_add, hfate, ← hw]
      exact filter_report_warning c rfl
  | none =>
    have hadd : a.register.add f = (⟨a.register.functions ++ [f]⟩, none) := by
      rw [Register.add, hfind]
    have hfate : t.fate a.register = .registered f := by simp only [Trial.fate, hf, hfind]
    have he : enter f (counted c) = { c.report [.bindingRegistered f.name f.parameters] with
        register := (a.register.add f).1
        statistics := (t.fate a.register).count c.statistics } := by
      simp only [enter, counted, hr, hadd, Context.report, hfate, Fate.count]
    rw [he]
    refine ⟨ht, ?_, ?_, ?_⟩
    · rw [Account.register_add, hafter]
    · rw [Account.statistics_add, ← hs]
    · rw [Account.warnings_add, hfate, ← hw]
      simpa [Handled.warning?] using filter_report c (quiet_singleton rfl)

theorem shownBy_skip {a : Account} {c : Context} (h : a.ShownBy c) {source : Text}
    {d : Declaration} {cause : Rejection} :
    (a.add [⟨source, d, .error cause⟩]).ShownBy (skip source d cause (counted c)) := by
  obtain ⟨ht, hr, hs, hw⟩ := h
  refine ⟨ht, ?_, ?_, ?_⟩
  · rw [Account.register_add]; exact hr
  · rw [Account.statistics_add, ← hs]; rfl
  · rw [Account.warnings_add, ← hw]
    exact filter_report_warning c rfl

variable (g : Generator) {a : Account} {c : Context}

/-- A declaration is counted once, with the warning that its fate calls for. -/
theorem metBy_addDeclaration (h : a.ShownBy c) (source : Text) (d : Declaration) :
    Account.MetBy (g.addDeclaration source c d)
      (a.tried ((g.trial? source d).map Option.toList)) := by
  rcases shortName_cases g.rules d.name with ⟨p, short, -, -, hs⟩ | ⟨p, -, hs⟩ | ⟨-, hs⟩
  · have hb : a.ShownBy (c.report (g.rules.bind source d).events) := h.report (quiet_bind _ _ _)
    simp only [addDeclaration, trial?, hs]
    cases (g.rules.bind source d).result with
    | ok f => exact .going (shownBy_enter hb rfl)
    | error e =>
      cases e with
      | rejected cause => exact .going (shownBy_skip hb)
      | misuse cause => exact .stopped h.table
  · simp only [addDeclaration, trial?, hs]
    exact .going (by simpa using h.report (quiet_singleton rfl))
  · simp only [addDeclaration, trial?, hs]
    exact .stopped h.table

theorem tried_cons (source : Text) (d : Declaration) (ds : List Declaration) :
    a.tried (g.trials source (d :: ds)) =
      (a.tried ((g.trial? source d).map Option.toList)).bind
        fun b => b.tried (g.trials source ds) := by
  rw [trials]
  cases g.trial? source d with
  | error e => rfl
  | ok t =>
    cases g.trials source ds with
    | error e => rfl
    | ok ts => simp [Account.tried, Except.map, Except.bind, Account.add_add]

/-- What holds of every step holds of all steps together. -/
theorem metBy_steps {α : Type} {step : Context → α → Progress}
    {account : Account → α → Except Account.Stop Account}
    (hstep : ∀ {a c}, a.ShownBy c → ∀ x, Account.MetBy (step c x) (account a x))
    (h : a.ShownBy c) (xs : List α) :
    Account.MetBy (Progress.steps step c xs) (xs.foldlM account a) := by
  induction xs generalizing a c with
  | nil => exact .going h
  | cons x xs ih =>
    rw [List.foldlM_cons, Progress.steps]
    exact (hstep h x).bind ih

theorem foldlM_trial (source : Text) (ds : List Declaration) :
    ds.foldlM (fun b d => b.tried ((g.trial? source d).map Option.toList)) a =
      a.tried (g.trials source ds) := by
  induction ds generalizing a with
  | nil => simp [trials, Account.tried]; rfl
  | cons d ds ih =>
    rw [List.foldlM_cons, tried_cons]
    exact congrArg _ (funext fun b => ih)

theorem metBy_addBindings (h : a.ShownBy c) (header text : Text) :
    Account.MetBy (g.addBindings header text c) (a.tried (g.trialsOf header text)) := by
  unfold addBindings trialsOf
  cases g.exportMark.mark? with
  | some mark =>
    dsimp only
    rw [← foldlM_trial]
    exact metBy_steps (fun h d => metBy_addDeclaration g h header d) h _
  | none =>
    dsimp only
    split_ifs
    · exact .going (by simpa using h)
    · exact .stopped h.table

theorem metBy_addDefinitions (h : a.ShownBy c) (ds : List Definition) :
    Account.MetBy (addDefinitions ds c) (a.defined (.ok ds)) := by
  have hr : ∀ es : List Definition, a.ShownBy (c.report (es.filterMap (keptEvent c.table))) :=
    fun es => h.report (quiet_kept _ _)
  simp only [addDefinitions, Account.defined, List.span_eq_takeWhile_dropWhile, ← h.table]
  by_cases hd : ds.all c.table.yieldsReadably
  · have hall : ∀ d ∈ ds, c.table.yieldsReadably d = true := List.all_eq_true.mp hd
    rw [List.takeWhile_eq_self_iff.mpr hall, List.dropWhile_eq_nil_iff.mpr hall, if_pos hd]
    have ht : (c.table.merge ds).1 = (a.define ds).table := by rw [Account.table_define, h.table]
    obtain ⟨-, hg, hs, hw⟩ := hr ds
    exact .going ⟨by simpa using ht, hg, hs, hw⟩
  · have hne : (ds.dropWhile c.table.yieldsReadably).isEmpty = false := by
      rw [List.isEmpty_eq_false_iff, Ne, List.dropWhile_eq_nil_iff]
      exact fun hall => hd (List.all_eq_true.mpr hall)
    rw [if_neg hd, hne]
    exact .stopped rfl

theorem metBy_addConstants (h : a.ShownBy c) (header text : Text) :
    Account.MetBy (g.addConstants header text c) (a.defined (g.definitionsOf header text)) := by
  have hr := h.report (quiet_extract g.expander header text)
  unfold addConstants definitionsOf
  generalize Constant.extract g.expander header text = x at hr
  obtain ⟨events, result⟩ := x
  rcases result with
    ⟨⟨⟨failure⟩ | ⟨cause⟩ | _ | ⟨_⟩ | ⟨_⟩⟩ | ⟨_, expected, found⟩ | ⟨cause⟩⟩ | pairs
  · -- the macros could not be expanded
    dsimp only
    split_ifs with hg he
    · exact .stopped h.table
    · exact .going (by simpa using hr.report (quiet_singleton rfl))
    · have hq : Quiet [.constantsSkipped header failure, .preprocessorErrors failure.errors] :=
        (quiet_singleton rfl).append (quiet_singleton rfl)
      exact .going (by simpa using hr.report hq)
  · exact .stopped h.table
  · exact .stopped h.table
  · exact .stopped h.table
  · exact .stopped h.table
  · exact .stopped h.table
  · exact .stopped h.table
  · exact metBy_addDefinitions hr _

theorem shownBy_next (h : a.ShownBy c) : a.next.ShownBy
    { c with statistics := { c.statistics with headers := c.statistics.headers + 1 } } := by
  obtain ⟨ht, hg, hs, hw⟩ := h
  exact ⟨ht, hg, by rw [hs]; rfl, hw⟩

/-- A header is counted, gives its definitions, and then its declarations. -/
theorem metBy_addHeader (tree : Files.Tree) (h : a.ShownBy c) (header : Text) :
    Account.MetBy (g.addHeader tree c header) (g.account tree a header) := by
  have hstart : a.ShownBy (c.report [.headerStarted header]) := h.report (quiet_singleton rfl)
  unfold addHeader account readHeader
  dsimp only
  cases headerBytes tree (Files.Path.ofText header).write with
  | error failure => exact .stopped hstart.table
  | ok bytes =>
    have hread := shownBy_next (hstart.report (quiet_singleton (e := .headerRead
      (Files.Path.ofText header).write (Header.decode bytes).length) rfl))
    exact (metBy_addConstants g hread header (Header.ofBytes bytes)).bind
      (fun hs => metBy_addBindings g hs header (Header.ofBytes bytes))

/-- A run and its account end alike. -/
theorem metBy_run (tree : Files.Tree) (headers : List Text) :
    Account.MetBy (Progress.steps (g.addHeader tree) .empty headers)
      (headers.foldlM (g.account tree) .empty) :=
  metBy_steps (fun h header => metBy_addHeader g tree h header) Account.shownBy_empty headers

end Generator
end HeaderBindings.Binding
