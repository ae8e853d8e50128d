/-
# Context — the change that a workflow reacts to

The record that was written, its fields after the write, its fields before it
where they are known, and who wrote it.
-/
import RecordFlow.Value.Basic

namespace RecordFlow

/-- A change of one record. -/
structure Context where
  entityType : String
  entityId : String
  entity : Fields := []
  previousValues : Option Fields := none
  actorId : Option String := none
deriving Repr, Inhabited

namespace Context

/-- A field after the change, or the given value when the field is missing. -/
def get (c : Context) (key : String) (default : Value) : Value :=
  (c.entity.find? key).getD default

/-- A field before the change, or the given value when the field or everything is missing. -/
def previous (c : Context) (key : String) (default : Value) : Value :=
  ((c.previousValues.getD []).find? key).getD default

end Context
end RecordFlow
