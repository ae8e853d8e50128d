/-
# Dialects — the statements as texts

The kinds of database differ in the names of the column types only.
-/
import RecordFlow.Schema.Table

namespace RecordFlow.Schema

/-- A kind of database. -/
inductive Dialect where
  | sqlite | postgresql | mysql
deriving DecidableEq, Repr, Inhabited

instance : Vocabulary Dialect where
  title := "Dialect"
  members := [.sqlite, .postgresql, .mysql]
  text
    | .sqlite => "sqlite"
    | .postgresql => "postgresql"
    | .mysql => "mysql"

/-- The name of a column type in a dialect. -/
def ColumnType.text : Dialect → ColumnType → String
  | .postgresql, .uid => "UUID"
  | _, .uid => "CHAR(32)"
  | _, .shortText limit => "VARCHAR(" ++ toString limit ++ ")"
  | _, .longText => "TEXT"
  | .mysql, .flag => "BOOL"
  | _, .flag => "BOOLEAN"
  | _, .whole => "INTEGER"
  | .postgresql, .moment => "TIMESTAMP WITH TIME ZONE"
  | _, .moment => "DATETIME"
  | .postgresql, .document => "JSONB"
  | _, .document => "JSON"

/-- Names in brackets. -/
def listed (names : List String) : String := "(" ++ ", ".intercalate names ++ ")"

/-- The text of a column's definition. -/
def Column.text (d : Dialect) (c : Column) : String :=
  c.name ++ " " ++ c.type.text d ++ if c.nullable then "" else " NOT NULL"

/-- The text of a reference. -/
def ForeignKey.text (k : ForeignKey) : String :=
  "FOREIGN KEY" ++ listed k.columns ++ " REFERENCES " ++ k.table ++ " " ++ listed k.targets
    ++ " ON DELETE " ++ k.onDelete

/-- The text of a primary key; without columns there is none. -/
def primaryKeyText (columns : List String) : List String :=
  if columns.isEmpty then [] else ["PRIMARY KEY " ++ listed columns]

/-- The text of a statement. -/
def Statement.text (d : Dialect) : Statement → String
  | createTable t =>
    "CREATE TABLE " ++ t.name ++ " ( " ++ ", ".intercalate (t.columns.map (·.text d)
      ++ primaryKeyText t.primaryKey ++ t.foreignKeys.map (·.text)) ++ " )"
  | createIndex i =>
    "CREATE " ++ (if i.unique then "UNIQUE " else "") ++ "INDEX " ++ i.name ++ " ON " ++ i.table
      ++ " " ++ listed i.columns
  | dropTable name => "DROP TABLE " ++ name

end RecordFlow.Schema
