import HeaderBindings.Proofs.Binding.Concatenation

/-!
# Requests to a constant table

A table is asked to add a definition or to merge the definitions of a mapping. Whatever the order of
the requests, its entries are the first definitions of the names, and its collisions all later ones
with the source of the first. One thing can keep it from taking a definition: a collision is
reported with the value that stays, and where that has no text, the request fails there. Main
statement: the table, its collisions and the replies are told by the definitions that were taken,
and these are all that were given just if no name comes again after a first value without a text.
-/
namespace HeaderBindings.Constant

open Binding (Clashes Context Generator reports)
open FirstWins (firsts unseen)

def Definition.pair (d : Definition) : Text × Value := (d.name, d.value)

namespace Table

/-- A table is asked to add a definition, or the definitions of a mapping from one source. -/
inductive Request
  | add (d : Definition)
  | merge (source : Text) (values : List (Text × Value)) (distinct : (values.map Prod.fst).Nodup)

/-- Whether a name is new, how many names are new, or a failure. -/
inductive Reply
  | isNew (b : Bool)
  | count (n : ℕ)
  | unwritable
deriving DecidableEq, Repr

def Request.definitions : Request → List Definition
  | .add d => [d]
  | .merge source values _ => definitionsOf source values

/-- The definitions up to the first collision that cannot be reported, with that one. -/
def taken (t : Table) (ds : List Definition) : List Definition :=
  let (reported, rest) := ds.span t.yieldsReadably
  reported ++ rest.head?.toList

def perform (t : Table) : Request → Table × Reply
  | .add d => ((t.add d).1, if t.yieldsReadably d then .isNew (t.add d).2 else .unwritable)
  | .merge source values _ =>
    let ds := definitionsOf source values
    let (next, count) := t.merge (t.taken ds)
    (next, if ds.all t.yieldsReadably then .count count else .unwritable)

def performAll (t : Table) : List Request → Table × List Reply
  | [] => (t, [])
  | r :: rs =>
    let (next, reply) := t.perform r
    let (last, replies) := next.performAll rs
    (last, reply :: replies)

/-- The constants of a header come into the table of a run by one request, whose failure is that of
the run. -/
theorem addDefinitions_eq_perform (c : Context) (source : Text) (values : List (Text × Value))
    (distinct : (values.map Prod.fst).Nodup) :
    (Generator.addDefinitions (definitionsOf source values) c).context.table =
      (c.table.perform (.merge source values distinct)).1 ∧
    ((Generator.addDefinitions (definitionsOf source values) c).failure ≠ none ↔
      (c.table.perform (.merge source values distinct)).2 = .unwritable) := by
  refine ⟨rfl, ?_⟩
  simp [Generator.addDefinitions, perform, List.span_eq_takeWhile_dropWhile]

/-! ### What a table tells of the definitions it has taken -/

/-- The collisions of definitions that come after others: each with the first of its name. -/
def collisionsOf (given : List Definition) : List Definition → List Collision
  | [] => []
  | d :: ds =>
    ((given.find? (·.name = d.name)).map fun first => ⟨d.name, first.source, d.source⟩).toList ++
      collisionsOf (given ++ [d]) ds

theorem collisionsOf_concat (given ds : List Definition) (d : Definition) :
    collisionsOf given (ds ++ [d]) = collisionsOf given ds ++
      (((given ++ ds).find? (·.name = d.name)).map fun first =>
        ⟨d.name, first.source, d.source⟩).toList := by
  induction ds generalizing given with
  | nil => simp [collisionsOf]
  | cons e ds ih => simp [collisionsOf, ih]

/-- A table is what these definitions have made of it. -/
structure Records (t : Table) (given : List Definition) : Prop where
  definitions : t.definitions = firsts Definition.name given
  collisions : t.collisions = collisionsOf [] given

theorem records_empty : empty.Records [] := ⟨rfl, rfl⟩

section Records
variable {t : Table} {given : List Definition} (h : t.Records given)
include h

theorem Records.find? (name : Text) : t.find? name = given.find? (·.name = name) := by
  rw [Table.find?, h.definitions]
  exact FirstWins.find?_firsts Definition.name given name

theorem Records.add (d : Definition) : (t.add d).1.Records (given ++ [d]) := by
  have hfind := h.find? d.name
  constructor
  · rw [FirstWins.add_definitions, h.definitions, FirstWins.firsts_concat]
  · rw [collisionsOf_concat, List.nil_append, ← hfind, ← h.collisions]
    unfold Table.add
    cases t.find? d.name <;> simp

theorem Records.merge (ds : List Definition) : (t.merge ds).1.Records (given ++ ds) := by
  induction ds generalizing t given with
  | nil => simpa [Table.merge] using h
  | cons d ds ih => simpa [Table.merge] using ih (h.add d)

theorem Records.entries_find? (name : Text) :
    t.entries.find? (·.1 = name) = (given.map Definition.pair).find? (·.1 = name) := by
  rw [Binding.find?_entries, h.find?, List.find?_map]
  rfl

/-- The collisions that a table cannot report are the clashes with what it has taken. -/
theorem Records.reports_iff (ds : List Definition) :
    reports t ds = true ↔ ¬Clashes (given.map Definition.pair) (ds.map Definition.pair) := by
  rw [← Binding.clashes_congr h.entries_find?, ← Bool.not_eq_false]
  exact not_congr Binding.reports_eq_false_iff

/-- A merge counts the names that are new. -/
theorem Records.count_merge {ds : List Definition} (hd : (ds.map Definition.name).Nodup) :
    (t.merge ds).2 = ds.countP (·.name ∉ given.map Definition.name) := by
  have hnames := FirstWins.mem_keys_firsts Definition.name given
  have hsize := FirstWins.count_merge t ds
  have hdefinitions := congrArg List.length (FirstWins.merge_definitions t ds)
  rw [List.length_append, FirstWins.firsts_eq_self _ hd, h.definitions,
    FirstWins.unseen_congr _ hnames] at hdefinitions
  have hcount : ds.countP (·.name ∉ given.map Definition.name) =
      (unseen Definition.name given ds).length := by
    simp [unseen, List.countP_eq_length_filter]
  unfold Table.size at hsize
  rw [h.definitions] at hsize
  omega

theorem Records.size_add_collisions : t.size + t.collisions.length = given.length := by
  have hmerged := records_empty.merge given
  have hsize := FirstWins.size_merge empty given
  rw [List.nil_append] at hmerged
  unfold Table.size at hsize ⊢
  rw [hmerged.definitions, hmerged.collisions, ← h.definitions, ← h.collisions] at hsize
  simpa [empty] using hsize

end Records

/-! ### Replies -/

/-- What a request adds to the definitions that were taken before it, and how it is replied to. -/
inductive Answers (given : List Definition) : Request → List Definition → Reply → Prop
  | new {d : Definition} (new : d.name ∉ given.map Definition.name) :
    Answers given (.add d) [d] (.isNew true)
  | known {d first : Definition} (known : given.find? (·.name = d.name) = some first)
      (shown : first.value.isWritable = true) : Answers given (.add d) [d] (.isNew false)
  | unshown {d first : Definition} (known : given.find? (·.name = d.name) = some first)
      (unshown : first.value.isWritable = false) : Answers given (.add d) [d] .unwritable
  | merged {source : Text} {values : List (Text × Value)}
      {distinct : (values.map Prod.fst).Nodup}
      (shown : ¬Clashes (given.map Definition.pair) values) :
    Answers given (.merge source values distinct) (definitionsOf source values)
      (.count (values.countP (·.1 ∉ given.map Definition.name)))
  | stopped {source : Text} {before after : List (Text × Value)} {p : Text × Value}
      {distinct : ((before ++ p :: after).map Prod.fst).Nodup}
      (shown : ¬Clashes (given.map Definition.pair) before)
      (unshown : Clashes (given.map Definition.pair) (before ++ [p])) :
    Answers given (.merge source (before ++ p :: after) distinct)
      (definitionsOf source (before ++ [p])) .unwritable

/-- Requests one after another, with all definitions that were taken in the end and the replies. -/
inductive Answered : List Definition → List Request → List Definition → List Reply → Prop
  | nil {given : List Definition} : Answered given [] given []
  | cons {given ds all : List Definition} {r : Request} {rs : List Request} {reply : Reply}
      {replies : List Reply} (first : Answers given r ds reply)
      (rest : Answered (given ++ ds) rs all replies) :
    Answered given (r :: rs) all (reply :: replies)

theorem clashes_append {known given more : List (Text × Value)} :
    Clashes known (given ++ more) ↔ Clashes known given ∨ Clashes (known ++ given) more := by
  induction given generalizing known with
  | nil => simp [Binding.not_clashes_nil]
  | cons p given ih =>
    rw [List.cons_append, Binding.clashes_cons, Binding.clashes_cons, ih, or_assoc,
      List.append_assoc, List.singleton_append]

theorem map_pair_definitionsOf (source : Text) (values : List (Text × Value)) :
    (definitionsOf source values).map Definition.pair = values := by
  rw [definitionsOf, List.map_map]
  exact List.map_id values

theorem nodup_definitionsOf (source : Text) {values : List (Text × Value)}
    (h : (values.map Prod.fst).Nodup) :
    ((definitionsOf source values).map Definition.name).Nodup := by
  rw [definitionsOf, List.map_map]
  exact h

theorem reply_add (t : Table) (d : Definition) :
    (t.perform (.add d)).2 = match t.find? d.name with
      | none => .isNew true
      | some first => if first.value.isWritable then .isNew false else .unwritable := by
  have hnew : (t.add d).2 = (t.find? d.name).isNone := by
    unfold Table.add
    split <;> simp_all
  simp only [perform, yieldsReadably, get?, hnew]
  cases t.find? d.name <;> simp

/-- Where a table can report all collisions with some definitions, it takes all of them. -/
theorem taken_of_all {t : Table} {ds : List Definition} (h : ds.all t.yieldsReadably = true) :
    t.taken ds = ds := by
  have hall : ∀ d ∈ ds, t.yieldsReadably d = true := List.all_eq_true.mp h
  simp [taken, List.span_eq_takeWhile_dropWhile, List.takeWhile_eq_self_iff.mpr hall,
    List.dropWhile_eq_nil_iff.mpr hall]

/-- Otherwise it takes them up to the first of the others. -/
theorem exists_taken {t : Table} {ds : List Definition} (h : ds.all t.yieldsReadably = false) :
    ∃ before d after, ds = before ++ d :: after ∧ t.taken ds = before ++ [d] ∧
      before.all t.yieldsReadably = true ∧ t.yieldsReadably d = false := by
  cases hrest : ds.dropWhile t.yieldsReadably with
  | nil =>
    rw [List.all_eq_true.mpr (List.dropWhile_eq_nil_iff.mp hrest)] at h
    cases h
  | cons d after =>
    have hds := List.takeWhile_append_dropWhile (p := t.yieldsReadably) (l := ds)
    rw [hrest] at hds
    refine ⟨_, d, after, hds.symm, ?_, ?_, ?_⟩
    · simp [taken, List.span_eq_takeWhile_dropWhile, hrest]
    · exact List.all_eq_true.mpr fun e he => List.mem_takeWhile_imp he
    · have hhead := List.head_dropWhile_not t.yieldsReadably (l := ds) (by simp [hrest])
      simpa [hrest] using hhead

/-- A table reports the collisions with a mapping if none of its names comes after a value without a
text. -/
theorem Records.all_yieldsReadably_iff {t : Table} {given : List Definition} (h : t.Records given)
    (source : Text) {values : List (Text × Value)} (distinct : (values.map Prod.fst).Nodup) :
    (definitionsOf source values).all t.yieldsReadably = true ↔
      ¬Clashes (given.map Definition.pair) values := by
  have hiff := h.reports_iff (definitionsOf source values)
  rwa [Binding.reports_eq_all t (nodup_definitionsOf source distinct),
    map_pair_definitionsOf] at hiff

/-- A table that has taken some definitions performs a request as they say. -/
theorem Records.perform {t : Table} {given : List Definition} (h : t.Records given) (r : Request) :
    ∃ ds, Answers given r ds (t.perform r).2 ∧ (t.perform r).1.Records (given ++ ds) := by
  cases r with
  | add d =>
    refine ⟨[d], ?_, h.add d⟩
    rw [reply_add, h.find?]
    cases hfind : given.find? (·.name = d.name) with
    | none => exact .new (by simpa using hfind)
    | some first =>
      dsimp only
      split_ifs with hshown
      · exact .known hfind hshown
      · exact .unshown hfind (by simpa using hshown)
  | merge source values distinct =>
    have hnames := nodup_definitionsOf source distinct
    cases hall : (definitionsOf source values).all t.yieldsReadably with
    | true =>
      refine ⟨definitionsOf source values, ?_, ?_⟩
      · simp only [Table.perform, taken_of_all hall, hall, if_true, h.count_merge hnames]
        have hcount : (definitionsOf source values).countP
            (·.name ∉ given.map Definition.name) =
              values.countP (·.1 ∉ given.map Definition.name) := List.countP_map ..
        rw [hcount]
        exact .merged ((h.all_yieldsReadably_iff source distinct).mp hall)
      · simp only [Table.perform, taken_of_all hall]
        exact h.merge _
    | false =>
      obtain ⟨first, d, rest, hds, htaken, hfirst, hd⟩ := exists_taken hall
      obtain ⟨before, tail, rfl, rfl, htail⟩ := List.map_eq_append_iff.mp hds
      obtain ⟨p, after, rfl, rfl, rfl⟩ := List.map_eq_cons_iff.mp htail
      have hstart : (before ++ [p]).Sublist (before ++ p :: after) := by simp
      have hboth : ((before ++ [p]).map Prod.fst).Nodup := distinct.sublist (hstart.map Prod.fst)
      have hbefore : (before.map Prod.fst).Nodup :=
        hboth.sublist ((List.sublist_append_left before [p]).map Prod.fst)
      have hunshown : (definitionsOf source (before ++ [p])).all t.yieldsReadably = false := by
        simp [definitionsOf, hd]
      refine ⟨definitionsOf source (before ++ [p]), ?_, ?_⟩
      · simp only [Table.perform, hall, Bool.false_eq_true, if_false]
        refine .stopped ((h.all_yieldsReadably_iff source hbefore).mp hfirst) ?_
        by_contra hno
        rw [(h.all_yieldsReadably_iff source hboth).mpr hno] at hunshown
        cases hunshown
      · simp only [Table.perform, htaken]
        simpa [definitionsOf] using h.merge (definitionsOf source (before ++ [p]))

theorem Records.performAll {t : Table} {given : List Definition} (h : t.Records given)
    (rs : List Request) :
    ∃ all, Answered given rs all (t.performAll rs).2 ∧ (t.performAll rs).1.Records all := by
  induction rs generalizing t given with
  | nil => exact ⟨given, .nil, h⟩
  | cons r rs ih =>
    obtain ⟨ds, hfirst, hnext⟩ := h.perform r
    obtain ⟨all, hrest, hlast⟩ := ih hnext
    exact ⟨all, .cons hfirst hrest, hlast⟩

theorem clashes_singleton_iff {given : List Definition} {d : Definition} :
    Clashes (given.map Definition.pair) [d.pair] ↔
      ∃ first, given.find? (·.name = d.name) = some first ∧ first.value.isWritable = false := by
  have hfind : (given.map Definition.pair).find? (·.1 = d.pair.1) =
      (given.find? (·.name = d.name)).map Definition.pair := List.find?_map ..
  rw [Binding.clashes_cons, hfind, or_iff_left (Binding.not_clashes_nil _)]
  constructor
  · rintro ⟨q, hq, hw⟩
    obtain ⟨first, hfirst, rfl⟩ := Option.map_eq_some_iff.mp hq
    exact ⟨first, hfirst, hw⟩
  · rintro ⟨first, hfirst, hw⟩
    exact ⟨first.pair, by rw [hfirst]; rfl, hw⟩

/-- A request fails exactly if a name comes again after a value without a text. Otherwise all its
definitions are taken. -/
theorem Answers.unwritable_iff {given ds : List Definition} {r : Request} {reply : Reply}
    (h : Answers given r ds reply) :
    (reply = .unwritable ↔
      Clashes (given.map Definition.pair) (r.definitions.map Definition.pair)) ∧
    (reply ≠ .unwritable → ds = r.definitions) := by
  cases h with
  | @new d hnew =>
    refine ⟨iff_of_false nofun fun hc => ?_, fun _ => rfl⟩
    obtain ⟨first, hfirst, -⟩ := clashes_singleton_iff.mp hc
    have hname : first.name = d.name := by simpa using List.find?_some hfirst
    exact hnew (hname ▸ List.mem_map_of_mem (List.mem_of_find?_eq_some hfirst))
  | known hknown hshown =>
    refine ⟨iff_of_false nofun fun hc => ?_, fun _ => rfl⟩
    obtain ⟨first, hfirst, hw⟩ := clashes_singleton_iff.mp hc
    rw [hknown] at hfirst
    cases hfirst
    rw [hshown] at hw
    cases hw
  | unshown hknown hunshown =>
    have hclash := clashes_singleton_iff.mpr ⟨_, hknown, hunshown⟩
    exact ⟨iff_of_true rfl hclash, fun hne => (hne rfl).elim⟩
  | merged hshown =>
    refine ⟨iff_of_false nofun fun hc => hshown ?_, fun _ => rfl⟩
    rwa [Request.definitions, map_pair_definitionsOf] at hc
  | @stopped source before after p distinct hshown hunshown =>
    refine ⟨iff_of_true rfl ?_, fun hne => (hne rfl).elim⟩
    have hall : before ++ p :: after = (before ++ [p]) ++ after := by simp
    rw [Request.definitions, map_pair_definitionsOf, hall]
    exact clashes_append.mpr (.inl hunshown)

theorem Answered.unwritable_iff {given all : List Definition} {rs : List Request}
    {replies : List Reply} (h : Answered given rs all replies) :
    (.unwritable ∈ replies ↔
      Clashes (given.map Definition.pair) ((rs.flatMap Request.definitions).map Definition.pair)) ∧
    (.unwritable ∉ replies → all = given ++ rs.flatMap Request.definitions) := by
  induction h with
  | nil => simp [Binding.not_clashes_nil]
  | @cons given ds all r rs reply replies first _ ih =>
    obtain ⟨hreply, hds⟩ := first.unwritable_iff
    rw [List.flatMap_cons, List.map_append, clashes_append, ← hreply, List.mem_cons]
    by_cases hu : reply = .unwritable
    · simp [hu]
    · rw [← hds hu, ← List.map_append, ← ih.1]
      refine ⟨by simp [hu, eq_comm], fun hno => ?_⟩
      rw [ih.2 fun hm => hno (.inr hm), List.append_assoc]

/-- Whatever a table is asked, it takes definitions in order, and these tell everything: the entries
are the first of each name, with the source of the first; the collisions are the others, each with
the source of the first of its name; so the table and its collisions have as many members as
definitions were taken. An addition is replied to by whether the name is new and a merge by how many
names are, unless the value that stays has no text. All definitions of all requests are taken and no
request fails exactly if no name comes again after a first value without a text. -/
theorem records_performAll (rs : List Request) :
    ∃ given, Answered [] rs given (empty.performAll rs).2 ∧
      (empty.performAll rs).1.entries = (firsts Definition.name given).map Definition.pair ∧
      (∀ name, (empty.performAll rs).1.source? name =
        (given.find? (·.name = name)).map (·.source)) ∧
      (empty.performAll rs).1.collisions = collisionsOf [] given ∧
      (empty.performAll rs).1.size + (empty.performAll rs).1.collisions.length = given.length ∧
      (.unwritable ∈ (empty.performAll rs).2 ↔
        Clashes [] ((rs.flatMap Request.definitions).map Definition.pair)) ∧
      (.unwritable ∉ (empty.performAll rs).2 → given = rs.flatMap Request.definitions) := by
  obtain ⟨given, hanswered, hrecords⟩ := records_empty.performAll rs
  refine ⟨given, hanswered, ?_, fun name => ?_, hrecords.collisions,
    hrecords.size_add_collisions, hanswered.unwritable_iff.1, hanswered.unwritable_iff.2⟩
  · rw [entries, hrecords.definitions]
    rfl
  · rw [source?, hrecords.find?]

/-- A first value without a text, and a mapping that has its name before a new one. -/
def unshownRequests : List Request := [
  .add ⟨['X'], .int (Decimal.tenTo 4300), ['a']⟩,
  .merge ['b'] [(['X'], .int 1), (['Y'], .int 2)] (by decide)]

/-- The same requests with a first value that has a text. -/
def shownRequests : List Request := [
  .add ⟨['X'], .int 7, ['a']⟩, .merge ['b'] [(['X'], .int 1), (['Y'], .int 2)] (by decide)]

theorem records_performAll_shown :
    (∃ given, Answered [] shownRequests given (empty.performAll shownRequests).2 ∧
      given = shownRequests.flatMap Request.definitions) ∧
    (empty.performAll shownRequests).2 = [.isNew true, .count 1] ∧
    (empty.performAll shownRequests).1.entries.map Prod.fst = [['X'], ['Y']] ∧
    (empty.performAll unshownRequests).2 = [.isNew true, .unwritable] ∧
    (empty.performAll unshownRequests).1.entries.map Prod.fst = [['X']] := by
  have hreplies : (empty.performAll shownRequests).2 = [.isNew true, .count 1] := by
    decide +kernel
  refine ⟨?_, hreplies, by decide +kernel, by decide +kernel, by decide +kernel⟩
  obtain ⟨given, hanswered, -, -, -, -, -, hall⟩ := records_performAll shownRequests
  exact ⟨given, hanswered, hall (by simp [hreplies])⟩

end Table
end HeaderBindings.Constant
