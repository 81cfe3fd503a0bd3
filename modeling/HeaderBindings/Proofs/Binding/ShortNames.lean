import HeaderBindings.Proofs.Binding.Names
import HeaderBindings.Proofs.Header.Declarations

/-!
# Short names

A binding is registered under what follows the prefix of the library in the name of its function.
The name of the function is a name and its rest is not empty, so the short name is made of word
characters; nothing looks at the first of them. A short name that begins with a digit is registered
like any other. Main statement: this holds of every binding that a run registers, also of one that
ends early, and the short name is a name just if its first character may begin one.
-/
namespace HeaderBindings.Binding

open Header (Declaration)
open Text

/-! ### Names of one binding -/

/-- How a binding is named under a prefix of the library. -/
structure HasShortName (libraryPrefix : Datum) (f : BoundFunction) : Prop where
  native : isName f.nativeName = true
  split : ∃ p, libraryPrefix = .text p ∧ f.nativeName = p ++ f.name
  ne_nil : f.name ≠ []
  words : IsWordText f.name
  isName_iff : isName f.name = true ↔ f.name.head?.any isNameStart = true

/-- Of a text of word characters the first decides whether it is a name. -/
theorem isName_iff_of_isWordText {t : Text} (h : IsWordText t) :
    isName t = true ↔ t.head?.any isNameStart = true := by
  cases t with
  | nil => simp [isName, readName?]
  | cons c r =>
    have hr : IsWordText r := fun d hd => h d (List.mem_cons_of_mem c hd)
    rw [Text.isName_iff]
    constructor
    · rintro ⟨d, s, hds, hd, -⟩
      cases hds
      exact hd
    · exact fun hc => ⟨c, r, rfl, hc, hr⟩

theorem hasShortName_of_bind {rules : Rules} {source : Text} {d : Declaration}
    {f : BoundFunction} (h : (rules.bind source d).result = .ok f) (hd : isName d.name = true) :
    HasShortName rules.libraryPrefix f := by
  obtain ⟨p, short, arguments, hp, hshort, -, rfl⟩ := Generator.bind_eq_ok h
  have hname : d.name = p ++ short := shortName?_eq hshort
  have hwords : IsWordText short := by
    intro c hc
    exact IsWordText.of_isName hd c (hname ▸ List.mem_append_right p hc)
  refine ⟨hd, ⟨p, hp, hname⟩, ?_, hwords, isName_iff_of_isWordText hwords⟩
  rintro rfl
  have hlength := (Header.isSome_shortName?_iff.mp (Option.isSome_of_eq_some hshort)).2
  simp [hname] at hlength

/-! ### Bindings of a register -/

/-- All bindings in the register of a context have a property. -/
def Context.Registers (p : BoundFunction → Prop) (c : Context) : Prop :=
  ∀ f ∈ c.register.functions, p f

theorem registers_empty (p : BoundFunction → Prop) : Context.empty.Registers p :=
  fun _ hf => absurd hf List.not_mem_nil

section Steps
variable {p : BoundFunction → Prop} {c : Context} (h : c.Registers p)
include h

theorem Context.Registers.enter {f : BoundFunction} (hf : p f) :
    (Generator.enter f c).Registers p := by
  unfold Generator.enter Register.add
  cases c.register.find? f.name with
  | some first => exact h
  | none => exact List.forall_mem_append.mpr ⟨h, List.forall_mem_singleton.mpr hf⟩

/-- A declaration adds at most what is bound for it. -/
theorem Context.Registers.addDeclaration {g : Generator} {source : Text} {d : Declaration}
    (hd : ∀ f, (g.rules.bind source d).result = .ok f → p f) :
    (g.addDeclaration source c d).context.Registers p := by
  unfold Generator.addDeclaration
  split
  · exact h
  · exact h
  · dsimp only
    split
    · next f hf =>
      refine Context.Registers.enter ?_ (hd f hf)
      exact h
    · exact h
    · exact h

/-- Constants are no bindings. -/
theorem Context.Registers.addConstants (g : Generator) (header text : Text) :
    (g.addConstants header text c).context.Registers p := by
  unfold Generator.addConstants Generator.addDefinitions
  dsimp only
  split <;> try exact h
  split_ifs <;> exact h

end Steps

/-- What every step keeps is kept by all steps together, whether or not one of them fails. -/
theorem Progress.steps_induction {α : Type} {step : Context → α → Progress} {p : Context → Prop}
    {as : List α} (hstep : ∀ c, p c → ∀ a ∈ as, p (step c a).context) {c : Context} (hc : p c) :
    p (Progress.steps step c as).context := by
  induction as generalizing c with
  | nil => exact hc
  | cons a as ih =>
    have hfirst := hstep c hc a List.mem_cons_self
    rw [Progress.steps]
    split
    · next next hnext =>
      rw [hnext] at hfirst
      exact ih (fun c hc b hb => hstep c hc b (List.mem_cons_of_mem a hb)) hfirst
    · exact hfirst

section Runs
variable (g : Generator) (tree : Files.Tree)

section Properties
variable {p : BoundFunction → Prop} (hp : ∀ source d f, isName d.name = true →
  (g.rules.bind source d).result = .ok f → p f)
include hp

theorem Context.Registers.addBindings {c : Context} (h : c.Registers p) (header text : Text) :
    (g.addBindings header text c).context.Registers p := by
  unfold Generator.addBindings
  split
  · refine Progress.steps_induction (fun c hc d hd => ?_) h
    have hname := Header.Declaration.isName_of_mem_scanFrom hd
    exact hc.addDeclaration fun f => hp header d f hname
  · exact h

theorem Context.Registers.addHeader {c : Context} (h : c.Registers p) (header : Text) :
    (g.addHeader tree c header).context.Registers p := by
  unfold Generator.addHeader
  dsimp only
  split
  · exact h
  · split
    · next next hnext =>
      have hadded : (Progress.mk next none).context.Registers p := by
        rw [← hnext]
        refine Context.Registers.addConstants ?_ g header _
        exact h
      exact Context.Registers.addBindings g hp hadded header _
    · refine Context.Registers.addConstants ?_ g header _
      exact h

end Properties

/-- The bindings that a run registers, also if it ends early. -/
def Generator.registered (headers : List Text) : List BoundFunction :=
  (Progress.steps (g.addHeader tree) .empty headers).context.register.functions

/-- A run that ends with a result yields the bindings that it registered. -/
theorem bindings_of_run {headers : List Text} {log : List Log.Event} {r : Result}
    (h : g.run tree headers = ⟨log, .ok r⟩) : r.bindings = g.registered tree headers := by
  unfold Generator.run at h
  unfold Generator.registered
  split at h
  · next c hc =>
    rw [hc]
    exact congrArg Result.bindings (Except.ok.inj (congrArg Ended.result h)).symm
  · cases h

/-- What holds of every binding of a declaration with a name holds of what a run registers. -/
theorem forall_registered {p : BoundFunction → Prop} (hp : ∀ source d f, isName d.name = true →
    (g.rules.bind source d).result = .ok f → p f) (headers : List Text) :
    ∀ f ∈ g.registered tree headers, p f :=
  Progress.steps_induction (fun _ hc header _ => hc.addHeader g tree hp header) (registers_empty p)

/-- Every binding that a run registers has a short name: not empty, of word characters, and what
follows the prefix in the name of its function. It is a name just if its first character is a letter
or an underscore. -/
theorem hasShortName_registered (headers : List Text) :
    (∀ f ∈ g.registered tree headers, HasShortName g.rules.libraryPrefix f) ∧
    ∀ log r, g.run tree headers = ⟨log, .ok r⟩ → r.bindings = g.registered tree headers :=
  ⟨forall_registered g tree (fun _ _ _ hd hf => hasShortName_of_bind hf hd) headers,
    fun _ _ => bindings_of_run g tree⟩

end Runs

/-- A function whose name goes on with a digit behind the prefix, and one with a letter there. -/
def digitTree : Files.Tree :=
  ⟨[], [], [([['a']], Text.Utf8.encode "E(void) cv2D();E(void) cvD2();".toList)], []⟩

theorem hasShortName_registered_digit :
    (Generator.ones.registered digitTree [['a']]).map (·.name) = ["2D".toList, "D2".toList] ∧
    ∀ f ∈ Generator.ones.registered digitTree [['a']], HasShortName (.text "cv".toList) f :=
  ⟨by decide +kernel, (hasShortName_registered Generator.ones digitTree [['a']]).1⟩

/-- The first of these is registered under a short name that is no name. -/
theorem shortName_digit :
    (Generator.ones.run digitTree [['a']]).result.toOption.map (·.bindings.map (·.name)) =
      some ["2D".toList, "D2".toList] ∧
    isName "2D".toList = false :=
  ⟨by decide +kernel, by decide⟩

end HeaderBindings.Binding
