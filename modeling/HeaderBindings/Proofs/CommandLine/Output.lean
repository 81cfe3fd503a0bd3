import HeaderBindings.CommandLine.Run
import HeaderBindings.Proofs.Binding.Endings

/-!
# What a command line writes

The module of a result is written first, and then the manifest if there is to be one. The status of
a command line says that all of this is done: it is 0 if the module is in its file and the manifest
in its own, and 1 if the system does not let a directory or a file of theirs be written. A path that
is no string or holds a null character, an integer or a string without a text, and whatever else a
library raises abort the command instead.
-/
namespace HeaderBindings.CommandLine

open Binding (pathOf)
open Files (Fault Path Tree)

/-- The content of the file of a module. -/
def moduleBytes (c : Config) (headers : List Text) (r : Binding.Result) : Text.Bytes :=
  Text.Utf8.encode (PerlModule.Document.ofResult r headers (c.get .moduleName)).render

/-- What is handed over of a result for its manifest. -/
def feedOf (c : Config) (r : Binding.Result) : Manifest.Feed :=
  .ofResult ⟨c.get .moduleName, c.get .returnName⟩ r

variable {s : Surroundings} {c : Config} {tree : Tree} {headers : List Text} {r : Binding.Result}
  {target : Target}

/-! ### The module -/

section Module
variable (c tree headers r target)

/-- The module of a result is put in its file. -/
structure ModuleWritten (t : Tree) : Prop where
  shown : PerlModule.canShow r (c.get .moduleName) = true
  encodable : PerlModule.canEncode r (c.get .moduleName) (c.get .returnName) = true
  written : ∃ made, target.makeParent tree = ⟨made, none⟩ ∧
    target.write made (moduleBytes c headers r) = ⟨t, none⟩

/-- How the directory or the file of a module cannot be written. A module that cannot be encoded
fails when its file is opened. -/
inductive ModuleFault : Fault → Prop
  | directory {made : Tree} {fault : Fault} (parent : target.makeParent tree = ⟨made, some fault⟩) :
    ModuleFault fault
  | file {made t : Tree} {fault : Fault} (parent : target.makeParent tree = ⟨made, none⟩)
      (shown : PerlModule.canShow r (c.get .moduleName) = true)
      (encodable : PerlModule.canEncode r (c.get .moduleName) (c.get .returnName) = true)
      (write : target.write made (moduleBytes c headers r) = ⟨t, some fault⟩) : ModuleFault fault
  | opening {made t : Tree} {fault : Fault} (parent : target.makeParent tree = ⟨made, none⟩)
      (shown : PerlModule.canShow r (c.get .moduleName) = true)
      (unencodable : PerlModule.canEncode r (c.get .moduleName) (c.get .returnName) = false)
      (write : target.write made [] = ⟨t, some fault⟩) : ModuleFault fault

/-- How a module has no text, or none that can be encoded. -/
inductive ModuleTextless : Abort → Prop
  | unwritable {made : Tree} (parent : target.makeParent tree = ⟨made, none⟩)
      (shown : PerlModule.canShow r (c.get .moduleName) = false) : ModuleTextless .unwritable
  | unencodable {made t : Tree} (parent : target.makeParent tree = ⟨made, none⟩)
      (shown : PerlModule.canShow r (c.get .moduleName) = true)
      (unencodable : PerlModule.canEncode r (c.get .moduleName) (c.get .returnName) = false)
      (write : target.write made [] = ⟨t, none⟩) : ModuleTextless .unencodable

end Module

theorem ModuleWritten.writeModule {t : Tree} (h : ModuleWritten c tree headers r target t) :
    writeModule c tree headers r target =
      ⟨[.moduleWritten r.bindings.length target.path], t, .finished 0⟩ := by
  obtain ⟨hshown, hencodable, made, hmade, hwrite⟩ := h
  unfold moduleBytes at hwrite
  simp [CommandLine.writeModule, Ran.afterStep, hmade, hshown, hencodable, hwrite]

theorem ModuleFault.writeModule {fault : Fault} (h : ModuleFault c tree headers r target fault) :
    ∃ t, CommandLine.writeModule c tree headers r target = .ofFault t fault := by
  cases h with
  | @directory made _ parent =>
    refine ⟨made, ?_⟩
    simp only [CommandLine.writeModule, Ran.afterStep, parent]
  | @file _ t _ parent shown encodable write =>
    refine ⟨t, ?_⟩
    unfold moduleBytes at write
    simp only [CommandLine.writeModule, Ran.afterStep, parent, shown, encodable, write,
      Bool.not_true, Bool.false_eq_true, if_false]
  | @opening _ t _ parent shown unencodable write =>
    refine ⟨t, ?_⟩
    simp only [CommandLine.writeModule, Ran.afterStep, parent, shown, unencodable, write,
      Bool.not_true, Bool.not_false, Bool.false_eq_true, if_false, if_true]

theorem ModuleTextless.outcome {x : Abort} (h : ModuleTextless c tree r target x)
    (headers : List Text) :
    (writeModule c tree headers r target).outcome = .aborted x := by
  cases h with
  | unwritable parent shown => simp [writeModule, Ran.afterStep, parent, shown]
  | unencodable parent shown unencodable write =>
    simp [writeModule, Ran.afterStep, parent, shown, unencodable, write]

/-- A module is written, or its directory or its file cannot be, or it has no text. -/
theorem module_cases (c : Config) (tree : Tree) (headers : List Text) (r : Binding.Result)
    (target : Target) :
    (∃ t, ModuleWritten c tree headers r target t) ∨
    (∃ fault, ModuleFault c tree headers r target fault) ∨
    ∃ x, ModuleTextless c tree r target x := by
  rcases hmade : target.makeParent tree with ⟨made, _ | fault⟩
  · cases hshown : PerlModule.canShow r (c.get .moduleName) with
    | false => exact .inr (.inr ⟨_, .unwritable hmade hshown⟩)
    | true =>
      cases hencodable : PerlModule.canEncode r (c.get .moduleName) (c.get .returnName) with
      | false =>
        rcases hwrite : target.write made [] with ⟨t, _ | fault⟩
        · exact .inr (.inr ⟨_, .unencodable hmade hshown hencodable hwrite⟩)
        · exact .inr (.inl ⟨_, .opening hmade hshown hencodable hwrite⟩)
      | true =>
        rcases hwrite : target.write made (moduleBytes c headers r) with ⟨t, _ | fault⟩
        · exact .inl ⟨t, hshown, hencodable, made, hmade, hwrite⟩
        · exact .inr (.inl ⟨_, .file hmade hshown hencodable hwrite⟩)
  · exact .inr (.inl ⟨_, .directory hmade⟩)

/-! ### Files of the tree -/

section Inside
variable {path : Text}

theorem ofExcept_eq_none_iff {before t : Tree} {x : Except Files.Failure Tree} :
    Files.Stepped.ofExcept before x = ⟨t, none⟩ ↔ x = .ok t := by
  cases x <;> simp [Files.Stepped.ofExcept]

/-- Only a null character is no error of the system. -/
theorem eq_nul_of_ofExcept {before t : Tree} {x : Except Files.Failure Tree} {message : Text}
    (h : Files.Stepped.ofExcept before x = ⟨t, some (.other message)⟩) :
    ∃ failure, x = .error failure ∧ failure.problem = .nul := by
  cases x with
  | ok u => cases h
  | error failure =>
    refine ⟨failure, rfl, ?_⟩
    have hfault : failure.fault = .other message :=
      Option.some.inj (congrArg Files.Stepped.fault h)
    unfold Files.Failure.fault at hfault
    split_ifs at hfault with hnul
    exact hnul

/-- A module that is written is in its file. -/
theorem ModuleWritten.read? {t : Tree} (h : ModuleWritten c tree headers r (.inside path) t) :
    t.read? (pathOf path) = some (moduleBytes c headers r) := by
  obtain ⟨-, -, made, -, hwrite⟩ := h
  exact Tree.read?_of_write (mapError_eq_ok_iff.mp (ofExcept_eq_none_iff.mp hwrite))

theorem mem_of_write_inside {made t : Tree} {content : Text.Bytes} {message : Text}
    (h : (Target.inside path).write made content = ⟨t, some (.other message)⟩) :
    '\x00' ∈ path := by
  by_contra hno
  have hpath : '\x00' ∉ pathOf path :=
    Tree.not_mem_write Tree.not_mem_root (Tree.not_mem_parts hno)
  obtain ⟨failure, hfailure, hnul⟩ := eq_nul_of_ofExcept h
  obtain ⟨problem, hproblem, rfl⟩ := mapError_eq_error_iff.mp hfailure
  obtain rfl : problem = .nul := hnul
  exact Tree.write_ne_nul _ hpath _ hproblem

/-- Of the tree, only a path with a null character is refused otherwise than by the system. -/
theorem ModuleFault.mem_of_inside {message : Text}
    (h : ModuleFault c tree headers r (.inside path) (.other message)) : '\x00' ∈ path := by
  cases h with
  | directory parent =>
    by_contra hno
    obtain ⟨failure, hfailure, hnul⟩ := eq_nul_of_ofExcept parent
    exact Tree.problem_makeDirectories hno hfailure hnul
  | file _ _ _ write => exact mem_of_write_inside write
  | opening _ _ _ write => exact mem_of_write_inside write

end Inside

/-! ### Module and manifest -/

section Both
variable (s c tree headers r)

/-- Everything that the configuration asks for is written, which leads to the last tree. -/
structure OutputWritten (final : Tree) : Prop where
  written : ∃ target t, target? s.outside (c.get .outputPd) = some target ∧
    ModuleWritten c tree headers r target t ∧
    (∀ path, c.get .outputPd = .text path →
      t.read? (pathOf path) = some (moduleBytes c headers r)) ∧
    (((c.get .outputManifest).isEmpty = true ∧ final = t) ∨
      ((c.get .outputManifest).isEmpty = false ∧ (c.get .outputManifest).isWritable = true ∧
        s.writer (feedOf c r) (c.get .outputManifest).toWide t = ⟨final, none⟩ ∧
        (feedOf c r).isCut = false))

/-- The system does not let a file be written. -/
inductive OutputFails : Prop
  | module {target : Target} {message : Text}
      (output : target? s.outside (c.get .outputPd) = some target)
      (fault : ModuleFault c tree headers r target (.system message))
  | manifest {target : Target} {t u : Tree} {message : Text}
      (output : target? s.outside (c.get .outputPd) = some target)
      (written : ModuleWritten c tree headers r target t)
      (asked : (c.get .outputManifest).isEmpty = false)
      (path : (c.get .outputManifest).isWritable = true)
      (write : s.writer (feedOf c r) (c.get .outputManifest).toWide t =
        ⟨u, some (.system message)⟩)

/-- What aborts the writing: the path of the module is no string or is refused otherwise than by the
system, the module has no text or cannot be encoded, the path of the manifest has no text, or its
writer fails otherwise or has been handed a part of it only. -/
inductive OutputAborts : Abort → Prop
  | noPath (output : target? s.outside (c.get .outputPd) = none) :
    OutputAborts (.misuse .wrongKind)
  | module {target : Target} {message : Text}
      (output : target? s.outside (c.get .outputPd) = some target)
      (fault : ModuleFault c tree headers r target (.other message))
      (nul : ∀ path, c.get .outputPd = .text path → '\x00' ∈ path) :
    OutputAborts (.raised message)
  | textless {target : Target} {x : Abort}
      (output : target? s.outside (c.get .outputPd) = some target)
      (textless : ModuleTextless c tree r target x) : OutputAborts x
  | manifestPath {target : Target} {t : Tree}
      (output : target? s.outside (c.get .outputPd) = some target)
      (written : ModuleWritten c tree headers r target t)
      (asked : (c.get .outputManifest).isEmpty = false)
      (path : (c.get .outputManifest).isWritable = false) : OutputAborts .unwritable
  | manifest {target : Target} {t u : Tree} {message : Text}
      (output : target? s.outside (c.get .outputPd) = some target)
      (written : ModuleWritten c tree headers r target t)
      (asked : (c.get .outputManifest).isEmpty = false)
      (path : (c.get .outputManifest).isWritable = true)
      (write : s.writer (feedOf c r) (c.get .outputManifest).toWide t =
        ⟨u, some (.other message)⟩) : OutputAborts (.raised message)
  | cut {target : Target} {t u : Tree}
      (output : target? s.outside (c.get .outputPd) = some target)
      (written : ModuleWritten c tree headers r target t)
      (asked : (c.get .outputManifest).isEmpty = false)
      (path : (c.get .outputManifest).isWritable = true)
      (write : s.writer (feedOf c r) (c.get .outputManifest).toWide t = ⟨u, none⟩)
      (cut : (feedOf c r).isCut = true) : OutputAborts .unwritable

end Both

theorem outcome_after (events : List Log.Event) (ran : Ran) :
    (ran.after events).outcome = ran.outcome := rfl

/-- What follows the module is written where it has been written. -/
theorem ModuleWritten.writeOutput {t : Tree}
    (htarget : target? s.outside (c.get .outputPd) = some target)
    (h : ModuleWritten c tree headers r target t) :
    CommandLine.writeOutput s c tree headers r =
      ((writeManifestOf s.writer c t r).andThen fun tree =>
        ⟨[.commandFinished r.statistics], tree, .finished 0⟩).after
          [.moduleWritten r.bindings.length target.path] := by
  unfold CommandLine.writeOutput
  rw [htarget]
  dsimp only
  rw [h.writeModule]
  rfl

/-- Nothing follows a step that has not come to its end. -/
theorem outcome_andThen_of_ne {ran : Ran} {next : Tree → Ran} (h : ran.outcome ≠ .finished 0) :
    (ran.andThen next).outcome = ran.outcome := by
  rw [Ran.andThen, if_neg h]

theorem outcome_writeOutput_of_writeModule
    (htarget : target? s.outside (c.get .outputPd) = some target)
    (h : (writeModule c tree headers r target).outcome ≠ .finished 0) :
    (writeOutput s c tree headers r).outcome = (writeModule c tree headers r target).outcome := by
  unfold writeOutput
  rw [htarget]
  exact outcome_andThen_of_ne h

theorem ModuleWritten.outcome_writeOutput {t : Tree}
    (htarget : target? s.outside (c.get .outputPd) = some target)
    (h : ModuleWritten c tree headers r target t)
    (hmanifest : (writeManifestOf s.writer c t r).outcome ≠ .finished 0) :
    (CommandLine.writeOutput s c tree headers r).outcome =
      (writeManifestOf s.writer c t r).outcome := by
  rw [h.writeOutput htarget, outcome_after, outcome_andThen_of_ne hmanifest]

theorem writeManifestOf_eq {t : Tree} (w : Manifest.Writer)
    (asked : (c.get .outputManifest).isEmpty = false)
    (path : (c.get .outputManifest).isWritable = true) :
    writeManifestOf w c t r = writeManifest w c t r (c.get .outputManifest).toWide := by
  simp [writeManifestOf, asked, path]

theorem OutputWritten.outcome {final : Tree} (h : OutputWritten s c tree headers r final) :
    (writeOutput s c tree headers r).outcome = .finished 0 ∧
      (writeOutput s c tree headers r).tree = final := by
  obtain ⟨target, t, htarget, hmodule, -, ⟨hnone, rfl⟩ | ⟨hasked, hpath, hwrite, hcut⟩⟩ := h
  · rw [hmodule.writeOutput htarget, writeManifestOf, if_pos hnone]
    exact ⟨rfl, rfl⟩
  · unfold feedOf at hwrite hcut
    rw [hmodule.writeOutput htarget, writeManifestOf_eq _ hasked hpath]
    simp only [writeManifest, Ran.afterStep, hwrite, hcut, Bool.false_eq_true, if_false]
    exact ⟨rfl, rfl⟩

theorem OutputFails.outcome (h : OutputFails s c tree headers r) :
    (writeOutput s c tree headers r).outcome = .finished 1 := by
  cases h with
  | module output fault =>
    obtain ⟨t, hmodule⟩ := fault.writeModule
    rw [outcome_writeOutput_of_writeModule output (by rw [hmodule]; nofun), hmodule]
    rfl
  | @manifest target t u message output written asked path write =>
    have hmanifest : (writeManifestOf s.writer c t r).outcome = .finished 1 := by
      unfold feedOf at write
      simp only [writeManifestOf_eq _ asked path, writeManifest, Ran.afterStep, write]
      rfl
    rw [written.outcome_writeOutput output (by rw [hmanifest]; nofun), hmanifest]

theorem OutputAborts.outcome {x : Abort} (h : OutputAborts s c tree headers r x) :
    (writeOutput s c tree headers r).outcome = .aborted x := by
  cases h with
  | noPath output =>
    unfold writeOutput
    rw [output]
  | module output fault _ =>
    obtain ⟨t, hmodule⟩ := fault.writeModule
    rw [outcome_writeOutput_of_writeModule output (by rw [hmodule]; nofun), hmodule]
    rfl
  | textless output textless =>
    have hmodule := textless.outcome headers
    rw [outcome_writeOutput_of_writeModule output (by rw [hmodule]; nofun), hmodule]
  | @manifestPath target t output written asked path =>
    have hmanifest : (writeManifestOf s.writer c t r).outcome = .aborted .unwritable := by
      simp [writeManifestOf, asked, path]
    rw [written.outcome_writeOutput output (by rw [hmanifest]; nofun), hmanifest]
  | @manifest target t u message output written asked path write =>
    have hmanifest : (writeManifestOf s.writer c t r).outcome = .aborted (.raised message) := by
      unfold feedOf at write
      simp only [writeManifestOf_eq _ asked path, writeManifest, Ran.afterStep, write]
      rfl
    rw [written.outcome_writeOutput output (by rw [hmanifest]; nofun), hmanifest]
  | @cut target t u output written asked path write cut =>
    have hmanifest : (writeManifestOf s.writer c t r).outcome = .aborted .unwritable := by
      unfold feedOf at write cut
      simp only [writeManifestOf_eq _ asked path, writeManifest, Ran.afterStep, write, cut, if_true]
    rw [written.outcome_writeOutput output (by rw [hmanifest]; nofun), hmanifest]

/-- The file that a text names is in the tree. -/
theorem eq_inside_of_target? {o : Files.Outside} {d : Datum} (h : target? o d = some target)
    {path : Text} (hd : d = .text path) : target = .inside path := by
  subst hd
  exact (Option.some.inj h).symm

/-- All is written, or a file cannot be, or the writing is aborted. -/
theorem output_cases (s : Surroundings) (c : Config) (tree : Tree) (headers : List Text)
    (r : Binding.Result) :
    (∃ final, OutputWritten s c tree headers r final) ∨ OutputFails s c tree headers r ∨
      ∃ x, OutputAborts s c tree headers r x := by
  cases htarget : target? s.outside (c.get .outputPd) with
  | none => exact .inr (.inr ⟨_, .noPath htarget⟩)
  | some target =>
    rcases module_cases c tree headers r target with ⟨t, hm⟩ | ⟨fault, hf⟩ | ⟨x, hx⟩
    · have hread (path : Text) (hpath : c.get .outputPd = .text path) :
          t.read? (pathOf path) = some (moduleBytes c headers r) := by
        obtain rfl := eq_inside_of_target? htarget hpath
        exact hm.read?
      cases hasked : (c.get .outputManifest).isEmpty with
      | true => exact .inl ⟨t, target, t, htarget, hm, hread, .inl ⟨hasked, rfl⟩⟩
      | false =>
        cases hpath : (c.get .outputManifest).isWritable with
        | false => exact .inr (.inr ⟨_, .manifestPath htarget hm hasked hpath⟩)
        | true =>
          rcases hwrite : s.writer (feedOf c r) (c.get .outputManifest).toWide t with
            ⟨u, _ | message | message⟩
          · cases hcut : (feedOf c r).isCut with
            | true => exact .inr (.inr ⟨_, .cut htarget hm hasked hpath hwrite hcut⟩)
            | false =>
              exact .inl ⟨u, target, t, htarget, hm, hread,
                .inr ⟨hasked, hpath, hwrite, hcut⟩⟩
          · exact .inr (.inl (.manifest htarget hm hasked hpath hwrite))
          · exact .inr (.inr ⟨_, .manifest htarget hm hasked hpath hwrite⟩)
    · cases fault with
      | system message => exact .inr (.inl (.module htarget hf))
      | other message =>
        refine .inr (.inr ⟨_, .module htarget hf fun path hpath => ?_⟩)
        obtain rfl := eq_inside_of_target? htarget hpath
        exact hf.mem_of_inside
    · exact .inr (.inr ⟨x, .textless htarget hx⟩)

end HeaderBindings.CommandLine
