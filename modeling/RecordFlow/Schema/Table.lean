/-
# Tables — the shape of the relational store's tables

A table has columns in order, a primary key and references to other tables;
indexes stand beside it.  Three statements change the tables of a database:
a table is created, an index is created, a table is dropped.  Names keep the
case in which they were given, and are found in any.
-/
import RecordFlow.Kinds

namespace RecordFlow.Schema

/-- Whether two names name the same: the case of ASCII letters does not count. -/
def sameName (a b : String) : Bool := a.map Char.toLower == b.map Char.toLower

/-- Whether a name is kept for the database itself. -/
def isReserved (name : String) : Bool := sameName (String.ofList (name.toList.take 7)) "sqlite_"

/-- What a column holds. -/
inductive ColumnType where
  | uid
  /-- Text of at most so many characters. -/
  | shortText (limit : Nat)
  | longText
  | flag
  | whole
  | moment
  | document
deriving DecidableEq, Repr

/-- A column of a table. -/
structure Column where
  name : String
  type : ColumnType
  nullable : Bool := false
deriving DecidableEq, Repr

/-- A reference from columns of one table to columns of another. -/
structure ForeignKey where
  columns : List String
  table : String
  targets : List String
  onDelete : String
deriving DecidableEq, Repr

/-- A table. -/
structure Table where
  name : String
  columns : List Column
  primaryKey : List String := []
  foreignKeys : List ForeignKey := []
deriving DecidableEq, Repr

/-- An index on columns of a table. -/
structure Index where
  name : String
  table : String
  columns : List String
  unique : Bool := false
deriving DecidableEq, Repr

/-- A change of the tables of a database. -/
inductive Statement where
  | createTable (t : Table)
  | createIndex (i : Index)
  | dropTable (name : String)
deriving DecidableEq, Repr

/-- A table of one optional whole number. -/
def Table.plain (name : String) : Table where
  name := name
  columns := [{ name := "x", type := .whole, nullable := true }]

end RecordFlow.Schema
