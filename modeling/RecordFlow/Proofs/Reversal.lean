/-
# Reversal — a revision brought in and taken back

Bringing a revision in adds its tables and indexes behind those that a
database has; taking it back leaves the database without the tables of some
names and without their indexes.  Both are told as functions on databases,
`bringing` and `without`, which undo each other where the names are new, and a
row that is written meanwhile either goes with its table or stays in a table
that was there before.

What is asked of a database is only what its names are for: each table has a
name of its own, and an index stands on a table.  References between tables are
not enforced, so the order in which tables are dropped does not show in rows.
-/
import Mathlib.Data.List.Pairwise
import RecordFlow.Schema.Database
import RecordFlow.Schema.Revision

namespace RecordFlow.Schema

/-! ## Names -/

theorem sameName_iff {a b : String} :
    sameName a b = true ↔ a.map Char.toLower = b.map Char.toLower := by
  simp [sameName]

theorem sameName_refl (a : String) : sameName a a = true := sameName_iff.mpr rfl

theorem sameName_comm (a b : String) : sameName a b = sameName b a := by
  rw [Bool.eq_iff_iff, sameName_iff, sameName_iff, eq_comm]

/-- Two names for the same are told apart from the same names. -/
theorem sameName_congr {a b : String} (same : sameName a b = true) : sameName a = sameName b := by
  funext c
  rw [Bool.eq_iff_iff, sameName_iff, sameName_iff, sameName_iff.mp same]

/-- Whether a name has no capital letter. -/
def isLower (name : String) : Bool := name.toList.all fun c => c.toLower == c

theorem map_toLower_of_isLower {name : String} (lower : isLower name = true) :
    name.map Char.toLower = name := by
  have each : ∀ c ∈ name.toList, c.toLower = c := by simpa [isLower] using lower
  rw [← String.toList_inj, String.toList_map, List.map_congr_left each, List.map_id']

/-- Names without capital letters are for one thing each where they are different. -/
theorem pairwise_of_isLower {names : List String} (lower : ∀ n ∈ names, isLower n = true)
    (once : names.Nodup) : names.Pairwise fun a b => sameName a b = false := by
  refine once.imp_of_mem fun {a b} ha hb other => ?_
  rw [← Bool.not_eq_true, sameName_iff, map_toLower_of_isLower (lower a ha),
    map_toLower_of_isLower (lower b hb)]
  exact other

/-- Whether a name is one of several. -/
def isNamed (names : List String) (name : String) : Bool := names.any (sameName name)

theorem isNamed_congr {a b : String} (same : sameName a b = true) (names : List String) :
    isNamed names a = isNamed names b := by
  rw [isNamed, isNamed, sameName_congr same]

theorem isNamed_eq_false_iff {names : List String} {name : String} :
    isNamed names name = false ↔ ∀ n ∈ names, sameName name n = false := by
  simp [isNamed]

theorem isNamed_of_mem {names : List String} {name : String} (h : name ∈ names) :
    isNamed names name = true := List.any_eq_true.mpr ⟨name, h, sameName_refl name⟩

namespace Database

/-! ## Databases -/

/-- The tables of a database without their rows, and its indexes. -/
def schema (db : Database) : List Table × List Index := (db.tables.map (·.table), db.indexes)

/-- Names are for one thing each: no two tables share one, and an index stands on a table. -/
structure IsSound (db : Database) : Prop where
  apart : db.schema.1.Pairwise fun a b => sameName a.name b.name = false
  indexed : ∀ i ∈ db.schema.2, ∃ t ∈ db.schema.1, sameName t.name i.table = true

/-- A database with the tables of some designs, still empty, and their indexes. -/
def bringing (db : Database) (ds : List TableDesign) : Database where
  tables := db.tables ++ ds.map fun d => { table := d.table }
  indexes := db.indexes ++ ds.flatMap (·.indexes)

/-- A database without the tables of some names and without their indexes. -/
def without (db : Database) (names : List String) : Database where
  tables := db.tables.filter fun s => !isNamed names s.table.name
  indexes := db.indexes.filter fun i => !isNamed names i.table

variable {db db' : Database}

theorem IsSound.of_schema (same : db'.schema = db.schema) (sound : db.IsSound) : db'.IsSound :=
  ⟨same ▸ sound.apart, same ▸ sound.indexed⟩

theorem hasName_eq_schema (db : Database) (name : String) :
    db.hasName name
      = (db.schema.1.any (sameName ·.name name) || db.schema.2.any (sameName ·.name name)) := by
  rw [hasName, schema, List.any_map]
  rfl

theorem hasName_of_schema (same : db'.schema = db.schema) (name : String) :
    db'.hasName name = db.hasName name := by
  rw [hasName_eq_schema, same, ← hasName_eq_schema]

theorem isSome_table?_iff {name : String} :
    (db.table? name).isSome = true ↔ ∃ t ∈ db.schema.1, sameName t.name name = true := by
  simp only [table?, List.find?_isSome, schema, List.mem_map, exists_exists_and_eq_and]

theorem hasName_eq_false_iff {name : String} :
    db.hasName name = false ↔ (∀ s ∈ db.tables, sameName s.table.name name = false) ∧
      ∀ i ∈ db.indexes, sameName i.name name = false := by
  simp [hasName]

theorem isFree_iff {name : String} :
    db.isFree name = true ↔ isReserved name = false ∧ db.hasName name = false := by
  simp [isFree]

/-! ## Statements one after the other -/

theorem executeAll_cons {x : Statement} (done : db.execute x = .ok db') (xs : List Statement) :
    db.executeAll (x :: xs) = db'.executeAll xs := by
  rw [executeAll, done]

theorem executeAll_append {xs : List Statement} (done : db.executeAll xs = (.ok (), db'))
    (ys : List Statement) : db.executeAll (xs ++ ys) = db'.executeAll ys := by
  induction xs generalizing db with
  | nil =>
      obtain rfl : db = db' := congrArg Prod.snd done
      rfl
  | cons x xs ih =>
      cases first : db.execute x with
      | ok next =>
          rw [executeAll_cons first] at done
          rw [List.cons_append, executeAll_cons first, ih done]
      | error f =>
          rw [executeAll, first] at done
          exact absurd (congrArg Prod.fst done) (by simp)

/-- A statement that is carried out leaves names for one thing each. -/
theorem IsSound.execute {x : Statement} (sound : db.IsSound) (done : db.execute x = .ok db') :
    db'.IsSound := by
  cases x with
  | createTable t =>
      simp only [Database.execute] at done
      split at done
      · rename_i allowed
        obtain rfl := Except.ok.inj done
        have new := (isFree_iff.mp (Bool.and_eq_true_iff.mp allowed).1).2
        refine ⟨?_, fun i hi => ?_⟩
        · rw [schema, List.map_append]
          refine List.pairwise_append.mpr ⟨sound.apart, List.pairwise_singleton _ _, ?_⟩
          intro u hu v hv
          obtain ⟨s, hs, rfl⟩ := List.mem_map.mp hu
          obtain rfl : v = t := by simpa using hv
          exact (hasName_eq_false_iff.mp new).1 s hs
        · obtain ⟨u, hu, on⟩ := sound.indexed i hi
          exact ⟨u, by rw [schema, List.map_append]; exact List.mem_append_left _ hu, on⟩
      · cases done
  | createIndex i =>
      simp only [Database.execute] at done
      split at done
      · rename_i allowed
        obtain rfl := Except.ok.inj done
        refine ⟨sound.apart, fun j hj => ?_⟩
        rcases List.mem_append.mp hj with hj | hj
        · exact sound.indexed j hj
        · obtain rfl := List.mem_singleton.mp hj
          have there := (Bool.and_eq_true_iff.mp allowed).2
          exact isSome_table?_iff.mp (Option.isSome_of_any there)
      · cases done
  | dropTable name =>
      simp only [Database.execute] at done
      split at done
      · cases done
      · obtain rfl := Except.ok.inj done
        refine ⟨sound.apart.sublist (List.filter_sublist.map _), fun i hi => ?_⟩
        obtain ⟨here, stays⟩ := List.mem_filter.mp hi
        obtain ⟨t, ht, on⟩ := sound.indexed i here
        obtain ⟨s, hs, rfl⟩ := List.mem_map.mp ht
        refine ⟨_, List.mem_map_of_mem (List.mem_filter.mpr ⟨hs, ?_⟩), on⟩
        rw [sameName_congr on]
        exact stays

/-- Every database that statements make of a sound one is sound. -/
theorem IsSound.executeAll (sound : db.IsSound) (xs : List Statement) :
    (db.executeAll xs).2.IsSound := by
  induction xs generalizing db with
  | nil => exact sound
  | cons x xs ih =>
      rw [Database.executeAll]
      split
      · rename_i next done
        exact ih (sound.execute done)
      · exact sound

/-! ## Taking tables away -/

theorem without_nil (db : Database) : db.without [] = db := by
  cases db
  simp [without, isNamed]

theorem without_reverse (db : Database) (names : List String) :
    db.without names.reverse = db.without names := by
  simp [without, isNamed]

theorem without_without (db : Database) (ns ms : List String) :
    (db.without ns).without ms = db.without (ns ++ ms) := by
  simp [without, isNamed, List.filter_filter, Bool.and_comm]

theorem execute_dropTable {name : String} (there : (db.table? name).isSome = true) :
    db.execute (.dropTable name) = .ok (db.without [name]) := by
  have here : (db.table? name).isNone = false := by
    rw [← Option.not_isSome, there]
    rfl
  rw [execute, here]
  simp [without, isNamed]

theorem isSome_table?_without {names : List String} {name : String}
    (there : (db.table? name).isSome = true) (other : isNamed names name = false) :
    ((db.without names).table? name).isSome = true := by
  obtain ⟨s, hs, same⟩ : ∃ s ∈ db.tables, sameName s.table.name name = true := by
    simpa [table?] using there
  have kept : isNamed names s.table.name = false := (isNamed_congr same names).trans other
  simp only [table?, without, List.find?_isSome, List.mem_filter]
  exact ⟨s, ⟨hs, by simp [kept]⟩, same⟩

/-- Tables with names of their own are dropped one after the other. -/
theorem executeAll_dropTable {names : List String}
    (there : ∀ n ∈ names, (db.table? n).isSome = true)
    (apart : names.Pairwise fun a b => sameName a b = false) :
    db.executeAll (names.map .dropTable) = (.ok (), db.without names) := by
  induction names generalizing db with
  | nil =>
      rw [List.map_nil, executeAll, without_nil]
  | cons n names ih =>
      obtain ⟨others, rest⟩ := List.pairwise_cons.mp apart
      have first := execute_dropTable (there n List.mem_cons_self)
      have still : ∀ m ∈ names, ((db.without [n]).table? m).isSome = true := by
        intro m hm
        refine isSome_table?_without (there m (List.mem_cons_of_mem _ hm)) ?_
        rw [isNamed_eq_false_iff]
        intro k hk
        rw [List.mem_singleton.mp hk, sameName_comm]
        exact others m hm
      rw [List.map_cons, executeAll_cons first, ih still rest, without_without]
      rfl

/-! ## Bringing tables in -/

theorem bringing_nil (db : Database) : db.bringing [] = db := by
  simp [bringing]

theorem bringing_cons (db : Database) (d : TableDesign) (ds : List TableDesign) :
    (db.bringing [d]).bringing ds = db.bringing (d :: ds) := by
  simp [bringing]

end Database

/-- The names that a design takes. -/
def TableDesign.names (d : TableDesign) : List String := d.table.name :: d.indexes.map (·.name)

/-- A design that can be carried out: its table can be made, and its indexes are on columns of
it. -/
structure TableDesign.IsSound (d : TableDesign) : Prop where
  made : Database.isWellMade d.table = true
  own : ∀ i ∈ d.indexes, sameName d.table.name i.table = true
  within : ∀ i ∈ d.indexes, Database.isWithin d.table i.columns = true

theorem Database.isWithin_of_subset {t : Table} {names : List String}
    (own : names ⊆ t.columns.map (·.name)) : isWithin t names = true := by
  refine List.all_eq_true.mpr fun n hn => List.any_eq_true.mpr ?_
  obtain ⟨c, hc, rfl⟩ := List.mem_map.mp (own hn)
  exact ⟨c, hc, sameName_refl _⟩

/-- A design in which no name has a capital letter can be carried out if its names are different
and are those of its columns. -/
theorem TableDesign.IsSound.of_lower {d : TableDesign}
    (lower : ∀ c ∈ d.table.columns, isLower c.name = true)
    (once : (d.table.columns.map (·.name)).Nodup)
    (key : d.table.primaryKey ⊆ d.table.columns.map (·.name))
    (keys : ∀ k ∈ d.table.foreignKeys,
      k.columns ⊆ d.table.columns.map (·.name) ∧ k.columns.length = k.targets.length)
    (indexes : ∀ i ∈ d.indexes,
      i.table = d.table.name ∧ i.columns ⊆ d.table.columns.map (·.name)) : d.IsSound where
  made := by
    have apart := pairwise_of_isLower
      (fun n hn => by obtain ⟨c, hc, rfl⟩ := List.mem_map.mp hn; exact lower c hc) once
    rw [List.pairwise_map] at apart
    rw [Database.isWellMade, decide_eq_true apart, Database.isWithin_of_subset key, Bool.true_and,
      Bool.true_and, List.all_eq_true]
    intro k hk
    rw [Database.isWithin_of_subset (keys k hk).1, (keys k hk).2, beq_self_eq_true, Bool.and_true]
  own i hi := (indexes i hi).1 ▸ sameName_refl _
  within i hi := Database.isWithin_of_subset (indexes i hi).2

namespace Database

variable {db db' : Database}

theorem execute_createTable {t : Table} (free : db.isFree t.name = true)
    (made : isWellMade t = true) :
    db.execute (.createTable t) = .ok { db with tables := db.tables ++ [{ table := t }] } := by
  rw [execute, if_pos (by rw [free, made]; rfl)]

theorem execute_createIndex {i : Index} (free : db.isFree i.name = true)
    (on : (db.table? i.table).any (isWithin ·.table i.columns) = true) :
    db.execute (.createIndex i) = .ok { db with indexes := db.indexes ++ [i] } := by
  rw [execute, if_pos (by rw [free, on]; rfl)]

/-- Indexes with new names of their own, on columns that are there, are created one after the
other. -/
theorem executeAll_createIndex {is : List Index} (free : ∀ i ∈ is, db.isFree i.name = true)
    (apart : (is.map (·.name)).Pairwise fun a b => sameName a b = false)
    (on : ∀ i ∈ is, (db.table? i.table).any (isWithin ·.table i.columns) = true) :
    db.executeAll (is.map .createIndex) = (.ok (), { db with indexes := db.indexes ++ is }) := by
  induction is generalizing db with
  | nil => simp [executeAll]
  | cons i is ih =>
      obtain ⟨others, rest⟩ := List.pairwise_cons.mp apart
      have first := execute_createIndex (free i List.mem_cons_self) (on i List.mem_cons_self)
      have still : ∀ j ∈ is,
          ({ db with indexes := db.indexes ++ [i] } : Database).isFree j.name = true := by
        intro j hj
        obtain ⟨allowed, new⟩ := isFree_iff.mp (free j (List.mem_cons_of_mem _ hj))
        obtain ⟨tables, indexes⟩ := hasName_eq_false_iff.mp new
        refine isFree_iff.mpr ⟨allowed, hasName_eq_false_iff.mpr ⟨tables, ?_⟩⟩
        intro k hk
        rcases List.mem_append.mp hk with hk | hk
        · exact indexes k hk
        · rw [List.mem_singleton.mp hk]
          exact others _ (List.mem_map_of_mem hj)
      rw [List.map_cons, executeAll_cons first, ih still rest fun j hj =>
        on j (List.mem_cons_of_mem _ hj)]
      simp

theorem isFree_bringing {d : TableDesign} {name : String} (free : db.isFree name = true)
    (other : ∀ n ∈ d.names, sameName n name = false) : (db.bringing [d]).isFree name = true := by
  obtain ⟨allowed, new⟩ := isFree_iff.mp free
  obtain ⟨tables, indexes⟩ := hasName_eq_false_iff.mp new
  refine isFree_iff.mpr ⟨allowed, hasName_eq_false_iff.mpr ⟨fun s hs => ?_, fun i hi => ?_⟩⟩
  · rcases List.mem_append.mp hs with hs | hs
    · exact tables s hs
    · obtain rfl : s = { table := d.table } := by simpa using hs
      exact other _ List.mem_cons_self
  · rcases List.mem_append.mp hi with hi | hi
    · exact indexes i hi
    · refine other _ (List.mem_cons_of_mem _ (List.mem_map_of_mem ?_))
      simpa using hi

/-- A design with new names of its own is carried out. -/
theorem executeAll_creation {d : TableDesign} (sound : d.IsSound)
    (free : ∀ n ∈ d.names, db.isFree n = true)
    (apart : d.names.Pairwise fun a b => sameName a b = false) :
    db.executeAll d.creation = (.ok (), db.bringing [d]) := by
  obtain ⟨others, rest⟩ := List.pairwise_cons.mp apart
  have new := free _ List.mem_cons_self
  have table := execute_createTable new sound.made
  have freeStill : ∀ i ∈ d.indexes,
      (db.bringing [{ table := d.table, indexes := [] }]).isFree i.name = true := by
    intro i hi
    have named : i.name ∈ d.indexes.map (·.name) := List.mem_map_of_mem hi
    refine isFree_bringing (free _ (List.mem_cons_of_mem _ named)) fun n hn => ?_
    rw [List.mem_singleton.mp hn]
    exact others _ named
  have on : ∀ i ∈ d.indexes,
      ((db.bringing [{ table := d.table, indexes := [] }]).table? i.table).any
        (isWithin ·.table i.columns) = true := by
    intro i hi
    have absent : db.tables.find? (fun s => sameName s.table.name i.table) = none := by
      rw [List.find?_eq_none]
      intro s hs
      rw [sameName_comm, ← sameName_congr (sound.own i hi), sameName_comm]
      simpa using (hasName_eq_false_iff.mp (isFree_iff.mp new).2).1 s hs
    have found : (db.bringing [{ table := d.table, indexes := [] }]).table? i.table
        = some { table := d.table } := by
      simp [table?, bringing, absent, sound.own i hi]
    rw [found]
    exact sound.within i hi
  have same : ({ db with tables := db.tables ++ [{ table := d.table }] } : Database)
      = db.bringing [{ table := d.table, indexes := [] }] := by
    simp [bringing]
  rw [TableDesign.creation, executeAll_cons table, same, executeAll_createIndex freeStill rest on]
  simp [bringing]

/-- Designs with new names of their own are carried out one after the other. -/
theorem executeAll_creations {ds : List TableDesign} (sound : ∀ d ∈ ds, d.IsSound)
    (free : ∀ n ∈ ds.flatMap TableDesign.names, db.isFree n = true)
    (apart : (ds.flatMap TableDesign.names).Pairwise fun a b => sameName a b = false) :
    db.executeAll (ds.flatMap TableDesign.creation) = (.ok (), db.bringing ds) := by
  induction ds generalizing db with
  | nil => rw [List.flatMap_nil, executeAll, bringing_nil]
  | cons d ds ih =>
      rw [List.flatMap_cons] at free apart
      obtain ⟨own, rest, across⟩ := List.pairwise_append.mp apart
      have first := executeAll_creation (sound d List.mem_cons_self)
        (fun n hn => free n (List.mem_append_left _ hn)) own
      have still : ∀ n ∈ ds.flatMap TableDesign.names, (db.bringing [d]).isFree n = true :=
        fun n hn => isFree_bringing (free n (List.mem_append_right _ hn)) fun m hm =>
          across m hm n hn
      rw [List.flatMap_cons, executeAll_append first, ← bringing_cons db d ds]
      exact ih (fun e he => sound e (List.mem_cons_of_mem _ he)) still rest

/-! ## Rows -/

/-- A database after an attempt to add a row; a row that is refused changes nothing. -/
def attempt (db : Database) (row : String × Fields) : Database :=
  match db.insert row.1 row.2 with
  | .ok (_, db') => db'
  | .error _ => db

/-- A database after attempts to add rows one after the other. -/
def insertAll (db : Database) (rows : List (String × Fields)) : Database := rows.foldl attempt db

theorem insertAll_cons (db : Database) (row : String × Fields) (rows : List (String × Fields)) :
    db.insertAll (row :: rows) = (db.attempt row).insertAll rows := rfl

/-- Tables, the one of a name replaced by another of that name. -/
def replacing (tables : List StoredTable) (name : String) (s : StoredTable) : List StoredTable :=
  tables.map fun t => if sameName t.table.name name then s else t

/-- A row goes to the table of its name, if there is one and it takes the row. -/
theorem attempt_eq (db : Database) (row : String × Fields) :
    db.attempt row = match (db.table? row.1).map fun s => StoredTable.insertRow s row.2 with
      | some (.ok s) => { db with tables := replacing db.tables row.1 s }
      | _ => db := by
  unfold attempt insert
  cases db.table? row.1 with
  | none => rfl
  | some s =>
      simp only [Option.map_some]
      cases StoredTable.insertRow s row.2 <;> rfl

theorem table_insertRow {s s' : StoredTable} {values : Fields}
    (taken : StoredTable.insertRow s values = .ok s') : s'.table = s.table := by
  simp only [StoredTable.insertRow, bind, Except.bind] at taken
  split at taken
  · cases taken
  · split at taken
    · cases taken
    · split at taken
      · cases taken
      · obtain rfl := Except.ok.inj taken
        rfl

theorem of_table? {name : String} {s : StoredTable} (found : db.table? name = some s) :
    s ∈ db.tables ∧ sameName s.table.name name = true := by
  rw [table?] at found
  have named := List.find?_some found
  exact ⟨List.mem_of_find?_eq_some found, named⟩

/-- Either nothing changes, or a table of the row's name is there and gives way to one of its
shape. -/
theorem attempt_cases (db : Database) (row : String × Fields) :
    db.attempt row = db ∨ ∃ s s', s ∈ db.tables ∧ sameName s.table.name row.1 = true ∧
      s'.table = s.table ∧ db.attempt row = { db with tables := replacing db.tables row.1 s' } := by
  rw [attempt_eq]
  cases found : db.table? row.1 with
  | none => exact .inl rfl
  | some s =>
      obtain ⟨hs, named⟩ := of_table? found
      cases taken : StoredTable.insertRow s row.2 with
      | error f => simp [taken]
      | ok s' => exact .inr ⟨s, s', hs, named, table_insertRow taken, by simp [taken]⟩

/-- A table that shares its name with another is the other. -/
theorem IsSound.table_eq (sound : db.IsSound) {s t : StoredTable} (hs : s ∈ db.tables)
    (ht : t ∈ db.tables) (same : sameName s.table.name t.table.name = true) :
    s.table = t.table := by
  have symmetric : Std.Symm fun a b : Table => sameName a.name b.name = false :=
    ⟨fun a b h => (sameName_comm b.name a.name).trans h⟩
  by_contra other
  have apart := sound.apart.forall (List.mem_map_of_mem hs) (List.mem_map_of_mem ht) other
  rw [same] at apart
  cases apart

/-- A row changes no table's shape and no index. -/
theorem schema_attempt (sound : db.IsSound) (row : String × Fields) :
    (db.attempt row).schema = db.schema := by
  obtain same | ⟨s, s', hs, here, shape, changed⟩ := db.attempt_cases row
  · rw [same]
  · rw [changed]
    refine Prod.ext ?_ rfl
    simp only [schema, replacing, List.map_map]
    refine List.map_congr_left fun t ht => ?_
    simp only [Function.comp]
    split
    · rename_i named
      rw [shape]
      exact sound.table_eq hs ht (by rw [sameName_congr here, sameName_comm, named])
    · rfl

theorem schema_insertAll (sound : db.IsSound) (rows : List (String × Fields)) :
    (db.insertAll rows).schema = db.schema := by
  induction rows generalizing db with
  | nil => rfl
  | cons row rows ih =>
      have first := schema_attempt sound row
      exact (ih (sound.of_schema first)).trans first

/-! ## Rows of tables that are taken away, and others -/

/-- Whether a table is taken away is told by its name, which a replacement keeps. -/
theorem filter_replacing {s : StoredTable} {name : String}
    (named : sameName s.table.name name = true) (names : List String)
    (tables : List StoredTable) :
    (replacing tables name s).filter (fun t => !isNamed names t.table.name)
      = replacing (tables.filter fun t => !isNamed names t.table.name) name s := by
  rw [replacing, List.filter_map, replacing]
  refine congrArg (List.map _) (List.filter_congr fun t _ => ?_)
  simp only [Function.comp]
  split
  · rename_i here
    rw [isNamed_congr named, isNamed_congr here]
  · rfl

/-- Where no table has the name, none is replaced. -/
theorem replacing_of_absent {s : StoredTable} {name : String} {tables : List StoredTable}
    (absent : ∀ t ∈ tables, sameName t.table.name name = false) :
    replacing tables name s = tables := by
  rw [replacing, List.map_congr_left fun t ht => if_neg (by simp [absent t ht])]
  exact List.map_id' tables

/-- A row for a table that is taken away goes with it. -/
theorem without_attempt_of_named {names : List String} {row : String × Fields}
    (gone : isNamed names row.1 = true) : (db.attempt row).without names = db.without names := by
  obtain same | ⟨s, s', hs, here, shape, changed⟩ := db.attempt_cases row
  · rw [same]
  · have kept : replacing (db.tables.filter fun t => !isNamed names t.table.name) row.1 s'
        = db.tables.filter fun t => !isNamed names t.table.name := by
      refine replacing_of_absent fun t ht => ?_
      have stays : isNamed names t.table.name = false := by simpa using (List.mem_filter.mp ht).2
      by_contra named
      rw [isNamed_congr (by simpa using named), gone] at stays
      cases stays
    rw [changed, without, filter_replacing (shape ▸ here), kept]
    rfl

theorem table?_without {names : List String} {name : String} (stays : isNamed names name = false) :
    (db.without names).table? name = db.table? name := by
  simp only [table?, without, List.find?_filter]
  refine congrArg (List.find? · db.tables) (funext fun s => ?_)
  by_cases named : sameName s.table.name name = true
  · simp [named, isNamed_congr named, stays]
  · simp [named]

/-- A row for a table that stays may as well be added afterwards. -/
theorem without_attempt_of_other {names : List String} {row : String × Fields}
    (stays : isNamed names row.1 = false) :
    (db.attempt row).without names = (db.without names).attempt row := by
  rw [attempt_eq, attempt_eq, table?_without stays]
  cases found : db.table? row.1 with
  | none => rfl
  | some s =>
      simp only [Option.map_some]
      cases taken : StoredTable.insertRow s row.2 with
      | error f => rfl
      | ok s' =>
          have named : sameName s'.table.name row.1 = true :=
            table_insertRow taken ▸ (of_table? found).2
          simp only [without, filter_replacing named]

/-- Taking tables away leaves of the rows that were added those for the other tables. -/
theorem without_insertAll (db : Database) (names : List String) (rows : List (String × Fields)) :
    (db.insertAll rows).without names
      = (db.without names).insertAll (rows.filter fun row => !isNamed names row.1) := by
  induction rows generalizing db with
  | nil => rfl
  | cons row rows ih =>
      rw [insertAll_cons, ih]
      cases named : isNamed names row.1 with
      | true =>
          rw [without_attempt_of_named named, List.filter_cons_of_neg (by simp [named])]
      | false =>
          rw [without_attempt_of_other named, List.filter_cons_of_pos (by simp [named]),
            insertAll_cons]

/-! ## There and back -/

theorem schema_bringing (db : Database) (ds : List TableDesign) :
    (db.bringing ds).schema
      = (db.schema.1 ++ ds.map (·.table), db.schema.2 ++ ds.flatMap (·.indexes)) := by
  simp [schema, bringing]

/-- What was brought in under new names is taken away by the names of its tables. -/
theorem without_bringing {ds : List TableDesign} (sound : db.IsSound)
    (designs : ∀ d ∈ ds, d.IsSound)
    (new : ∀ d ∈ ds, db.hasName d.table.name = false) :
    (db.bringing ds).without (ds.map (·.table.name)) = db := by
  have other : ∀ t ∈ db.schema.1, isNamed (ds.map (·.table.name)) t.name = false := by
    intro t ht
    obtain ⟨s, hs, rfl⟩ := List.mem_map.mp ht
    rw [isNamed_eq_false_iff]
    intro n hn
    obtain ⟨d, hd, rfl⟩ := List.mem_map.mp hn
    exact (hasName_eq_false_iff.mp (new d hd)).1 s hs
  have tablesStay : db.tables.filter (fun s => !isNamed (ds.map (·.table.name)) s.table.name)
      = db.tables := by
    refine List.filter_eq_self.mpr fun s hs => ?_
    rw [other _ (List.mem_map_of_mem hs)]
    rfl
  have indexesStay : db.indexes.filter (fun i => !isNamed (ds.map (·.table.name)) i.table)
      = db.indexes := by
    refine List.filter_eq_self.mpr fun i hi => ?_
    obtain ⟨t, ht, on⟩ := sound.indexed i hi
    rw [← isNamed_congr on, other t ht]
    rfl
  have tablesGo : (ds.map fun d => ({ table := d.table } : StoredTable)).filter
      (fun s => !isNamed (ds.map (·.table.name)) s.table.name) = [] := by
    refine List.filter_eq_nil_iff.mpr fun s hs => ?_
    obtain ⟨d, hd, rfl⟩ := List.mem_map.mp hs
    simp [isNamed_of_mem (List.mem_map_of_mem (f := (·.table.name)) hd)]
  have indexesGo : (ds.flatMap (·.indexes)).filter
      (fun i => !isNamed (ds.map (·.table.name)) i.table) = [] := by
    refine List.filter_eq_nil_iff.mpr fun i hi => ?_
    obtain ⟨d, hd, hi⟩ := List.mem_flatMap.mp hi
    have own := isNamed_congr ((designs d hd).own i hi) (ds.map (·.table.name))
    simp [← own, isNamed_of_mem (List.mem_map_of_mem (f := (·.table.name)) hd)]
  simp only [without, bringing, List.filter_append, tablesStay, tablesGo, indexesStay, indexesGo,
    List.append_nil]

end Database

namespace Revision

/-- The names that a revision takes. -/
def names (r : Revision) : List String := r.tables.flatMap TableDesign.names

/-- The names of a revision's tables. -/
def tableNames (r : Revision) : List String := r.tables.map (·.table.name)

/-- A revision that can be carried out: its designs can, and its names are for one thing each and
not kept for the database. -/
structure IsSound (r : Revision) : Prop where
  designs : ∀ d ∈ r.tables, d.IsSound
  apart : r.names.Pairwise fun a b => sameName a b = false
  allowed : ∀ n ∈ r.names, isReserved n = false

variable {r : Revision} {db : Database}

theorem tableNames_sublist (r : Revision) : r.tableNames.Sublist r.names := by
  unfold tableNames names
  induction r.tables with
  | nil => exact .slnil
  | cons d ds ih =>
      rw [List.flatMap_cons, TableDesign.names, List.cons_append]
      exact (ih.trans (List.sublist_append_right _ _)).cons_cons _

theorem downgrade_eq (r : Revision) :
    r.downgrade = r.tableNames.reverse.map Statement.dropTable := by
  simp [downgrade, tableNames]

section

variable (sound : r.IsSound) (whole : db.IsSound) (new : ∀ n ∈ r.names, db.hasName n = false)

include sound new

theorem upgrade_succeeds : db.executeAll r.upgrade = (.ok (), db.bringing r.tables) :=
  Database.executeAll_creations sound.designs
    (fun n hn => Database.isFree_iff.mpr ⟨sound.allowed n hn, new n hn⟩) sound.apart

include whole

theorem isSound_bringing : (db.bringing r.tables).IsSound := by
  have brought := whole.executeAll r.upgrade
  rwa [upgrade_succeeds sound new] at brought

/-- Whatever rows were written in between, a revision that was brought in is taken back. -/
theorem downgrade_succeeds (rows : List (String × Fields)) :
    ((db.bringing r.tables).insertAll rows).executeAll r.downgrade
      = (.ok (), ((db.bringing r.tables).insertAll rows).without r.tableNames) := by
  have filled := isSound_bringing sound whole new
  have there : ∀ n ∈ r.tableNames.reverse,
      (((db.bringing r.tables).insertAll rows).table? n).isSome = true := by
    intro n hn
    obtain ⟨d, hd, rfl⟩ := List.mem_map.mp (List.mem_reverse.mp hn)
    refine Database.isSome_table?_iff.mpr ⟨d.table, ?_, sameName_refl _⟩
    rw [Database.schema_insertAll filled, Database.schema_bringing]
    exact List.mem_append_right _ (List.mem_map_of_mem hd)
  have apart : r.tableNames.reverse.Pairwise fun a b => sameName a b = false := by
    rw [List.pairwise_reverse]
    exact (sound.apart.sublist r.tableNames_sublist).imp fun {a b} h => sameName_comm b a ▸ h
  rw [downgrade_eq, Database.executeAll_dropTable there apart, Database.without_reverse]

/-- What is left then are the rows that would be there had the revision never been brought in. -/
theorem without_insertAll_bringing (rows : List (String × Fields)) :
    ((db.bringing r.tables).insertAll rows).without r.tableNames
      = db.insertAll (rows.filter fun row => !isNamed r.tableNames row.1) := by
  have back := Database.without_bringing whole sound.designs fun d hd =>
    new _ (r.tableNames_sublist.subset (List.mem_map_of_mem (f := (·.table.name)) hd))
  rw [Database.without_insertAll, tableNames, back]

end

/-! ## The theorem -/

theorem initial_isLower : ∀ n ∈ initial.names, isLower n = true := by decide +kernel

theorem initial_isSound : initial.IsSound where
  designs := by
    have lower : ∀ d ∈ initial.tables, ∀ c ∈ d.table.columns, isLower c.name = true := by
      decide +kernel
    have once : ∀ d ∈ initial.tables, (d.table.columns.map (·.name)).Nodup := by decide +kernel
    have key : ∀ d ∈ initial.tables, d.table.primaryKey ⊆ d.table.columns.map (·.name) := by
      decide +kernel
    have keys : ∀ d ∈ initial.tables, ∀ k ∈ d.table.foreignKeys,
        k.columns ⊆ d.table.columns.map (·.name) ∧ k.columns.length = k.targets.length := by
      decide +kernel
    have indexes : ∀ d ∈ initial.tables, ∀ i ∈ d.indexes,
        i.table = d.table.name ∧ i.columns ⊆ d.table.columns.map (·.name) := by
      decide +kernel
    exact fun d hd => .of_lower (lower d hd) (once d hd) (key d hd) (keys d hd) (indexes d hd)
  apart := pairwise_of_isLower initial_isLower (by decide +kernel)
  allowed := by decide +kernel

/-- In every database that has none of the names of the first revision, the revision is brought in
and leaves all else as it is; whatever rows are written then, into any tables, it is taken back and
leaves the tables and indexes that were there before, their rows untouched and as if the rows for
them had been written without it; and brought in again it gives the same schema as before. -/
theorem initial_reversible {db : Database} (whole : db.IsSound)
    (new : ∀ n ∈ initial.names, db.hasName n = false) :
    ∃ up, db.executeAll initial.upgrade = (.ok (), up) ∧
      up.tables = db.tables ++ initial.tables.map (fun d => { table := d.table }) ∧
      up.indexes = db.indexes ++ initial.tables.flatMap (·.indexes) ∧
      ∀ rows : List (String × Fields), ∃ down,
        (up.insertAll rows).executeAll initial.downgrade = (.ok (), down) ∧
        down.schema = db.schema ∧
        down.tables = (up.insertAll rows).tables.filter
          (fun s => !isNamed initial.tableNames s.table.name) ∧
        down = db.insertAll (rows.filter fun row => !isNamed initial.tableNames row.1) ∧
        ∃ again, down.executeAll initial.upgrade = (.ok (), again) ∧
          again.schema = up.schema := by
  refine ⟨_, upgrade_succeeds initial_isSound new, rfl, rfl, fun rows => ?_⟩
  have down := downgrade_succeeds initial_isSound whole new rows
  have left := without_insertAll_bringing initial_isSound whole new rows
  have back : (((db.bringing initial.tables).insertAll rows).without initial.tableNames).schema
      = db.schema := by
    rw [left, Database.schema_insertAll whole]
  refine ⟨_, down, back, rfl, left, _, upgrade_succeeds initial_isSound fun n hn => ?_, ?_⟩
  · rw [Database.hasName_of_schema back, new n hn]
  · rw [Database.schema_bringing, Database.schema_bringing, back]

/-- A database of notes with one note and an index. -/
def notes : Database where
  tables := [{ table := Table.plain "notes", rows := [[.whole 7]] }]
  indexes := [{ name := "ix_notes", table := "notes", columns := ["x"] }]

theorem notes_isSound : notes.IsSound where
  apart := List.pairwise_singleton _ _
  indexed i hi := by
    obtain rfl := List.mem_singleton.mp hi
    exact ⟨_, List.mem_singleton_self _, sameName_refl _⟩

/-- A second note is written while the revision is in. -/
theorem notes_kept :
    notes.IsSound ∧ (∀ n ∈ initial.names, notes.hasName n = false) ∧
      ∃ up down, notes.executeAll initial.upgrade = (.ok (), up) ∧
        (up.insertAll [("notes", [("x", .int 8)])]).executeAll initial.downgrade
          = (.ok (), down) ∧
        down.tables.map (·.rows) = [[[.whole 7], [.whole 8]]] := by
  have apart : ("notes" :: "ix_notes" :: initial.names).Pairwise fun a b => sameName a b = false :=
    pairwise_of_isLower (List.forall_mem_cons.mpr ⟨by decide +kernel,
      List.forall_mem_cons.mpr ⟨by decide +kernel, initial_isLower⟩⟩) (by decide +kernel)
  obtain ⟨table, rest⟩ := List.pairwise_cons.mp apart
  obtain ⟨index, -⟩ := List.pairwise_cons.mp rest
  have new : ∀ n ∈ initial.names, notes.hasName n = false := fun n hn =>
    Database.hasName_eq_false_iff.mpr
      ⟨by simpa [notes, Table.plain] using table n (List.mem_cons_of_mem _ hn),
        by simpa [notes] using index n hn⟩
  have stays : isNamed initial.tableNames "notes" = false := isNamed_eq_false_iff.mpr fun n hn =>
    table n (List.mem_cons_of_mem _ (initial.tableNames_sublist.subset hn))
  obtain ⟨up, done, _, _, back⟩ := initial_reversible notes_isSound new
  obtain ⟨down, undone, _, _, rows, _⟩ := back [("notes", [("x", .int 8)])]
  rw [List.filter_cons_of_pos (by simp [stays]), List.filter_nil] at rows
  refine ⟨notes_isSound, new, up, down, done, undone, ?_⟩
  rw [rows]
  decide +kernel

end Revision
end RecordFlow.Schema
