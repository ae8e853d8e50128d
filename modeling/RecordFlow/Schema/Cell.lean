/-
# Cells — what a row holds in a column

A statement carries null, whole numbers, floating-point numbers and texts; a
truth value is carried as a whole number and a NaN as null.  A column of a key
keeps texts, so a number that is put there becomes its text, a floating-point
number with fifteen significant digits.
-/
import RecordFlow.Number.Rounded
import RecordFlow.Store.Columns

namespace RecordFlow.Schema

/-- What a row holds in a column. -/
inductive Cell where
  | null
  | whole (n : Int)
  | real (x : Binary64)
  | text (s : String)
deriving DecidableEq, Repr

/-- How the text of a floating-point number is laid out in a column of texts. -/
def columnLayout : FloatLayout where
  leastPoint := -3
  greatestPoint := 15
  plus := "+"
  exponentWidth := 2
  afterLone := ".0"
  infinity := "Inf"
  minusInfinity := "-Inf"
  nan := ""

/-- The text of a floating-point number in a column of texts; zero has no sign. -/
def columnText : Binary64 → String
  | .finite negative units =>
    columnLayout.writeDigits (negative && units ≠ 0) (Binary64.rounded units)
  | x => columnLayout.write x

namespace Cell

/-- The cell that a value becomes when a statement carries it. -/
def ofValue : Value → Except Failure Cell
  | .null => .ok null
  | .bool b => .ok (whole (if b then 1 else 0))
  | .int n => whole <$> Column.whole n
  | .float .nan => .ok null
  | .float x => .ok (real x)
  | .text s => .ok (text s)
  | _ => .error .unbindable

/-- The text that a column of texts keeps of a cell; of null, none. -/
def text? : Cell → Option String
  | null => none
  | whole n => some (toString n)
  | real x => some (columnText x)
  | text s => some s

end Cell
end RecordFlow.Schema
