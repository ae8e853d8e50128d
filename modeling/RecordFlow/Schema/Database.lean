/-
# Databases — tables with rows, changed statement by statement

Every statement takes effect on its own: a list of statements stops at the
first that fails, and what was done before it stays done.  Tables and indexes
share one space of names; a table that is dropped takes its indexes and its
rows with it.  References between tables are kept as part of the schema and
are not enforced.  A row has a cell for every column; its key is told by the
texts of its cells.
-/
import RecordFlow.Schema.Table
import RecordFlow.Schema.Cell

namespace RecordFlow.Schema

/-- A table with its rows. -/
structure StoredTable where
  table : Table
  rows : List (List Cell) := []
deriving Repr

/-- The tables of a database and their indexes, in the order of creation. -/
structure Database where
  tables : List StoredTable := []
  indexes : List Index := []
deriving Repr

namespace Database

/-- The table with a name. -/
def table? (db : Database) (name : String) : Option StoredTable :=
  db.tables.find? (sameName ·.table.name name)

/-- The indexes of a table. -/
def indexesOf (db : Database) (name : String) : List Index :=
  db.indexes.filter (sameName ·.table name)

/-- Whether a table or an index has a name. -/
def hasName (db : Database) (name : String) : Bool :=
  db.tables.any (sameName ·.table.name name) || db.indexes.any (sameName ·.name name)

/-- Whether a name is free for a table or an index. -/
def isFree (db : Database) (name : String) : Bool := !isReserved name && !db.hasName name

/-- Whether columns of a table have all of these names. -/
def isWithin (t : Table) (names : List String) : Bool :=
  names.all fun name => t.columns.any (sameName ·.name name)

/-- Whether a table can be made: no two of its columns share a name, its key and its references
are on columns of its own, and each of these refers to one column. -/
def isWellMade (t : Table) : Bool :=
  decide (t.columns.Pairwise fun a b => sameName a.name b.name = false)
    && isWithin t t.primaryKey
    && t.foreignKeys.all fun k => isWithin t k.columns && k.columns.length == k.targets.length

/-! ## Statements -/

/-- The database after one statement, if it can be carried out. -/
def execute (db : Database) : Statement → Except Failure Database
  | .createTable t =>
    if db.isFree t.name && isWellMade t then .ok { db with tables := db.tables ++ [⟨t, []⟩] }
    else .error .tableState
  | .createIndex i =>
    if db.isFree i.name && (db.table? i.table).any (isWithin ·.table i.columns) then
      .ok { db with indexes := db.indexes ++ [i] }
    else .error .tableState
  | .dropTable name =>
    if (db.table? name).isNone then .error .tableState
    else .ok {
      tables := db.tables.filter (!sameName ·.table.name name)
      indexes := db.indexes.filter (!sameName ·.table name) }

/-- Carries out statements in order up to the first that fails. -/
def executeAll (db : Database) : List Statement → Except Failure Unit × Database
  | [] => (.ok (), db)
  | s :: rest =>
    match db.execute s with
    | .ok db => db.executeAll rest
    | .error e => (.error e, db)

/-! ## Rows -/

/-- The row that values make: for each column the first that is given to it, or else null. -/
def rowOf (t : Table) (given : List (String × Cell)) : List Cell :=
  t.columns.map fun c => ((given.find? (sameName ·.1 c.name)).map (·.2)).getD .null

/-- Whether a row lacks nothing that its table asks for. -/
def isComplete (t : Table) (row : List Cell) : Bool :=
  (t.columns.zip row).all fun (c, x) => c.nullable || x ≠ .null

/-- The key of a row: the texts in the columns of the primary key. -/
def keyOf (t : Table) (row : List Cell) : List (Option String) :=
  ((t.columns.zip row).filter (t.primaryKey.contains ·.1.name)).map (·.2.text?)

/-- Whether a row repeats the key of a row that is there. -/
def repeatsKey (s : StoredTable) (row : List Cell) : Bool :=
  !s.table.primaryKey.isEmpty && s.rows.any (keyOf s.table · = keyOf s.table row)

/-- A table's rows with one more, if the row keeps the rules of the table. -/
def StoredTable.insertRow (s : StoredTable) (values : Fields) : Except Failure StoredTable := do
  if !isWithin s.table (values.map (·.1)) then throw .tableState
  let given ← values.mapM fun (name, v) => (name, ·) <$> Cell.ofValue v
  let row := rowOf s.table given
  if !isComplete s.table row || repeatsKey s row then throw .constraintBroken
  return { s with rows := s.rows ++ [row] }

/-- Adds a row to a table; how many rows the table has then, and the database. -/
def insert (db : Database) (name : String) (values : Fields) : Except Failure (Nat × Database) := do
  match db.table? name with
  | none => .error .tableState
  | some s =>
    let s ← StoredTable.insertRow s values
    let replace := fun (t : StoredTable) => if sameName t.table.name name then s else t
    return (s.rows.length, { db with tables := db.tables.map replace })

/-! ## Descriptions -/

/-- The names of the tables in alphabetical order. -/
def tableNames (db : Database) : List String :=
  (db.tables.map (·.table.name)).mergeSort fun a b => !(b < a)

/-- A table with its references and indexes, each in the order of their columns or names; it is
described only under the name as it was given. -/
def describe (db : Database) (name : String) : Except Failure (Table × List Index) :=
  match db.tables.find? (·.table.name = name) with
  | none => .error .noSuchTable
  | some s =>
    let byColumns := fun (a b : ForeignKey) => !decide (b.columns < a.columns)
    let byName := fun (a b : Index) => !decide (b.name < a.name)
    .ok ({ s.table with foreignKeys := s.table.foreignKeys.mergeSort byColumns },
      (db.indexesOf name).mergeSort byName)

/-- The descriptions of several tables; of all of them when none are named. -/
def describeAll (db : Database) (names : Option (List String)) :
    Except Failure (List (Table × List Index)) :=
  (names.getD db.tableNames).mapM db.describe

end Database
end RecordFlow.Schema
