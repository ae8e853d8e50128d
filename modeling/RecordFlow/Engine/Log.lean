/-
# Log — what the engine says while it works

An entry has a level, a message, and the fields that tell what it is about.
-/
import RecordFlow.Value.Text

namespace RecordFlow

/-- How much an entry of the log matters. -/
inductive LogLevel where
  | debug | info | warning | error
deriving DecidableEq, Repr

/-- The name of a level. -/
def LogLevel.text : LogLevel → String
  | debug => "DEBUG"
  | info => "INFO"
  | warning => "WARNING"
  | error => "ERROR"

/-- An entry of the log. -/
structure LogEntry where
  level : LogLevel
  message : String
  fields : Fields
deriving Repr

end RecordFlow
