import HeaderBindings.Files.Tree
import HeaderBindings.Proofs.Steps
import HeaderBindings.Proofs.Text.Lines

/-!
# Files that are written

A file is put at a place, and no directory and no lock changes, so every path leads where it led
before, and what is written is there. A null character in a path is found before the path is
followed.
-/
namespace HeaderBindings.Files.Tree

open Text (Bytes)

variable {t u : Tree}

theorem isDirectoryAt_putFile (t : Tree) (place : List Text) (content : Bytes)
    (p : List Text) : (t.putFile place content).isDirectoryAt p = t.isDirectoryAt p := by
  unfold putFile
  split_ifs <;> rfl

theorem lock?_putFile (t : Tree) (place : List Text) (content : Bytes) (access : Access)
    (p : List Text) : (t.putFile place content).lock? access p = t.lock? access p := by
  unfold putFile
  split_ifs <;> rfl

/-- A path that leads somewhere leads there after a file was put somewhere. -/
theorem walk_putFile (place : List Text) (content : Bytes) {start ns q : List Text}
    (h : t.walk start ns = .ok q) : (t.putFile place content).walk start ns = .ok q := by
  induction ns generalizing start with
  | nil => exact h
  | cons n ns ih =>
    unfold walk at h ⊢
    rw [isDirectoryAt_putFile, lock?_putFile]
    cases hlock : t.lock? .search start with
    | some problem =>
      simp only [hlock] at h
      split_ifs at h ⊢
      exact ih h
    | none =>
      simp only [hlock] at h
      split_ifs at h ⊢
      · exact ih h
      · exact ih h
      · exact ih h
      · exact ih h

theorem locate_putFile (place : List Text) (content : Bytes) {path : Text} {q : List Text}
    (h : t.locate path = .ok q) : (t.putFile place content).locate path = .ok q := by
  obtain ⟨_, hcheck, hwalk⟩ := bind_eq_ok_iff.mp h
  have horigin : (t.putFile place content).origin path = t.origin path := by
    unfold origin putFile
    split_ifs <;> rfl
  unfold locate
  rw [hcheck, horigin]
  exact walk_putFile place content hwalk

theorem content?_putFile (t : Tree) (place : List Text) (content : Bytes) :
    (t.putFile place content).content? place = some content := by
  unfold putFile
  split_ifs with h
  · obtain ⟨bytes, hb⟩ := Option.isSome_iff_exists.mp h
    obtain ⟨f, hf, -⟩ := Option.map_eq_some_iff.mp hb
    have hplace : f.1 = place := by simpa using List.find?_some hf
    have hsame : (fun g : List Text × Bytes => decide (g.1 = place)) ∘
        (fun g => if g.1 = place then (place, content) else g) = fun g => decide (g.1 = place) := by
      funext g
      by_cases hg : g.1 = place <;> simp [hg]
    rw [content?, List.find?_map, hsame, hf]
    simp [hplace]
  · have hnone : t.files.find? (·.1 = place) = none :=
      Option.map_eq_none_iff.mp (Option.not_isSome_iff_eq_none.mp h)
    simp [content?, List.find?_append, hnone]

/-- What is written to a path is there. -/
theorem read?_of_write {path : Text} {content : Bytes} (h : t.write path content = .ok u) :
    u.read? path = some content := by
  obtain ⟨_, -, h⟩ := bind_eq_ok_iff.mp h
  split_ifs at h
  · obtain ⟨_, -, h⟩ := bind_eq_ok_iff.mp h
    obtain ⟨_, -, h⟩ := bind_eq_ok_iff.mp h
    cases h
  · obtain ⟨place, hplace, h⟩ := bind_eq_ok_iff.mp h
    split at h
    · cases h
    · obtain ⟨_, -, h⟩ := bind_eq_ok_iff.mp h
      obtain ⟨_, -, h⟩ := bind_eq_ok_iff.mp h
      cases h
      simp only [read?, locate_putFile place content hplace, content?_putFile]

/-- A path that the system does not let be asked for: it leads neither to a place nor nowhere. -/
def Bars (t : Tree) (path : Text) (problem : Problem) : Prop :=
  t.locate path = .error problem ∧ problem.leadsNowhere = false

theorem look_eq_error_iff {path : Text} {f : Failure} : t.look path = .error f ↔
    t.Bars path f.problem ∧ f.path = some path := by
  obtain ⟨problem, path'⟩ := f
  unfold look Bars
  cases h : t.locate path with
  | ok place => simp
  | error found =>
    dsimp only
    split_ifs with hn
    · simp only [Except.error.injEq, false_iff]
      rintro ⟨⟨rfl, hno⟩, -⟩
      rw [hn] at hno
      cases hno
    · simp only [Except.error.injEq, Failure.mk.injEq]
      constructor
      · rintro ⟨rfl, rfl⟩
        exact ⟨⟨rfl, by simpa using hn⟩, rfl⟩
      · rintro ⟨⟨rfl, -⟩, rfl⟩
        exact ⟨rfl, rfl⟩

theorem look_eq_ok_iff {path : Text} {content : Option Bytes} : t.look path = .ok content ↔
    (∀ problem, ¬t.Bars path problem) ∧ t.read? path = content := by
  unfold look Bars read?
  cases h : t.locate path with
  | ok place => simp
  | error found =>
    dsimp only
    split_ifs with hn
    · simp [hn]
    · simp [hn]

theorem look_of_read? {path : Text} {bytes : Bytes} (h : t.read? path = some bytes) :
    t.look path = .ok (some bytes) := by
  refine look_eq_ok_iff.mpr ⟨?_, h⟩
  rintro problem ⟨hproblem, -⟩
  rw [read?, hproblem] at h
  cases h

/-! ### Null characters -/

theorem lock?_ne_nul (t : Tree) (access : Access) (place : List Text) :
    t.lock? access place ≠ some .nul := by
  intro h
  obtain ⟨_, -, h⟩ := Option.map_eq_some_iff.mp h
  cases h

theorem walk_ne_nul (t : Tree) (start ns : List Text) : t.walk start ns ≠ .error .nul := by
  induction ns generalizing start with
  | nil => simp [walk]
  | cons n ns ih =>
    unfold walk
    cases hlock : t.lock? .search start with
    | some problem =>
      have hproblem : problem ≠ .nul := fun hnul => lock?_ne_nul _ _ _ (hnul ▸ hlock)
      split_ifs <;> simp [ih, hproblem]
    | none => split_ifs <;> simp [ih]

theorem checkPath_eq_nul_iff {path : Text} : checkPath path = .error .nul ↔ '\x00' ∈ path := by
  unfold checkPath
  split_ifs with h <;> simp_all

theorem locate_ne_nul (t : Tree) {path : Text} (h : '\x00' ∉ path) :
    t.locate path ≠ .error .nul := by
  intro he
  rcases bind_eq_error_iff.mp he with hc | ⟨_, -, hw⟩
  · exact h (checkPath_eq_nul_iff.mp hc)
  · exact walk_ne_nul _ _ _ hw

theorem requireDirectory_ne_nul (t : Tree) (place : List Text) :
    t.requireDirectory place ≠ .error .nul := by
  unfold requireDirectory
  split_ifs <;> simp

theorem requireWrite_ne_nul (t : Tree) (place : List Text) :
    t.requireWrite place ≠ .error .nul := by
  unfold requireWrite
  split
  · next problem hlock =>
    rintro ⟨⟩
    exact lock?_ne_nul _ _ _ hlock
  · simp

theorem write_ne_nul (t : Tree) {path : Text} (h : '\x00' ∉ path) (content : Bytes) :
    t.write path content ≠ .error .nul := by
  intro he
  rcases bind_eq_error_iff.mp he with hc | ⟨_, -, he⟩
  · exact h (checkPath_eq_nul_iff.mp hc)
  split_ifs at he
  · rcases bind_eq_error_iff.mp he with hw | ⟨_, -, he⟩
    · exact walk_ne_nul _ _ _ hw
    · rcases bind_eq_error_iff.mp he with hr | ⟨_, -, he⟩
      · exact requireDirectory_ne_nul _ _ hr
      · cases he
  · rcases bind_eq_error_iff.mp he with hl | ⟨place, -, he⟩
    · exact locate_ne_nul t h hl
    · split at he
      · cases he
      · rcases bind_eq_error_iff.mp he with hr | ⟨_, -, he⟩
        · exact requireDirectory_ne_nul _ _ hr
        · rcases bind_eq_error_iff.mp he with hw | ⟨_, -, he⟩
          · exact requireWrite_ne_nul _ _ hw
          · cases he

theorem makeDirectory_ne_nul (t : Tree) {path : Text} (h : '\x00' ∉ path) :
    t.makeDirectory path ≠ .error .nul := by
  intro he
  rcases bind_eq_error_iff.mp he with hl | ⟨place, -, he⟩
  · exact locate_ne_nul t h hl
  · split_ifs at he
    · cases he
    · rcases bind_eq_error_iff.mp he with hr | ⟨_, -, he⟩
      · exact requireDirectory_ne_nul _ _ hr
      · rcases bind_eq_error_iff.mp he with hw | ⟨_, -, he⟩
        · exact requireWrite_ne_nul _ _ hw
        · cases he

/-- A path holds no null character but those of its names. -/
theorem not_mem_write {p : Path} (hr : '\x00' ∉ p.root) (hp : ∀ n ∈ p.parts, '\x00' ∉ n) :
    '\x00' ∉ p.write := by
  unfold Path.write
  split_ifs
  · decide
  · rw [List.mem_append, not_or]
    exact ⟨hr, Text.not_mem_join (by decide) hp⟩

theorem not_mem_root {t : Text} : '\x00' ∉ (Path.ofText t).root := by
  unfold Path.ofText Path.rootOf
  dsimp only
  split <;> decide

theorem not_mem_parts {t : Text} (h : '\x00' ∉ t) :
    ∀ n ∈ (Path.ofText t).parts, '\x00' ∉ n := by
  intro n hn hm
  exact h (Text.mem_of_mem_splitOn (List.mem_of_mem_filter hn) _ hm)

/-- Directories of names without null characters are made or fail for another reason. -/
theorem problem_makeReversed {root : Text} (hr : '\x00' ∉ root) {ns : List Text}
    (hn : ∀ n ∈ ns, '\x00' ∉ n) {cause : Failure} (h : t.makeReversed root ns = .error cause) :
    cause.problem ≠ .nul := by
  have hattempt {t : Tree} {path : Text} (hp : '\x00' ∉ path) {cause : Failure}
      (h : makeReversed.attempt t path = .error cause) : cause.problem ≠ .nul := by
    unfold makeReversed.attempt makeReversed.settle at h
    split at h
    · cases h
    · next problem hmake =>
      split_ifs at h
      cases h
      rintro rfl
      exact makeDirectory_ne_nul t hp hmake
  -- the last name comes first; what is missing above it is made before it is tried again
  induction ns generalizing t cause with
  | nil => exact hattempt (not_mem_write hr (by simp)) h
  | cons n ns ih =>
    obtain ⟨-, hns⟩ := List.forall_mem_cons.mp hn
    have hpath : '\x00' ∉ Path.write ⟨root, (n :: ns).reverse⟩ :=
      not_mem_write hr fun m hm => hn m (List.mem_reverse.mp hm)
    unfold makeReversed at h
    dsimp only at h
    split at h
    · cases h
    · rcases bind_eq_error_iff.mp h with h | ⟨u, -, h⟩
      · exact ih hns h
      · exact hattempt hpath h
    · next problem hmissing hmake =>
      unfold makeReversed.settle at h
      split_ifs at h
      cases h
      rintro rfl
      exact makeDirectory_ne_nul t hpath hmake

theorem problem_makeDirectories {path : Text} (h : '\x00' ∉ path) {cause : Failure}
    (hmake : t.makeDirectories (Path.ofText path).parent = .error cause) :
    cause.problem ≠ .nul := by
  refine problem_makeReversed not_mem_root (fun n hn => ?_) hmake
  exact not_mem_parts h n (List.dropLast_subset _ (List.mem_reverse.mp hn))

/-- A path keeps a null character when it is written without its empty parts. -/
theorem mem_write_ofText {t : Text} (h : '\x00' ∈ t) : '\x00' ∈ (Path.ofText t).write := by
  obtain ⟨p, hp, hm⟩ := Text.exists_mem_splitOn h (by decide : '\x00' ≠ '/')
  have hnil : p ≠ [] := List.ne_nil_of_mem hm
  have hdot : p ≠ ['.'] := by
    rintro rfl
    exact absurd hm (by decide)
  have hpart : p ∈ (Path.ofText t).parts := List.mem_filter.mpr ⟨hp, by simp [hnil, hdot]⟩
  rw [Path.write, if_neg fun hempty => List.ne_nil_of_mem hpart hempty.2]
  exact List.mem_append_right _ (Text.mem_join hpart hm)

/-- A path at which there is a file holds no null character. -/
theorem not_mem_of_read? {path : Text} {content : Bytes} (h : t.read? path = some content) :
    '\x00' ∉ path := by
  intro hm
  have hlocate : t.locate path = .error .nul := by
    unfold locate
    rw [checkPath_eq_nul_iff.mpr hm]
    rfl
  rw [read?, hlocate] at h
  cases h

end HeaderBindings.Files.Tree
