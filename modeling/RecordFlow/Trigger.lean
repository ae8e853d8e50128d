/-
# Triggers — which changes make a workflow eligible

A trigger names a kind of event and may narrow it: to a change of one field,
to a move between two values, to records that meet conditions.  A change is
seen in the texts of the values, not in the values; where a watched value has
no text, it cannot be told whether the trigger fires.
-/
import RecordFlow.Condition
import RecordFlow.Context

namespace RecordFlow

/-- A kind of event with its narrowing. -/
structure Trigger where
  kind : Open TriggerKind
  field : Option String := none
  fromValue : Option String := none
  toValue : Option String := none
  conditions : List Condition := []
  dateField : Option String := none
  offsetDays : Option Amount := none
  offsetDirection : Option String := none
deriving Repr, Inhabited

namespace Trigger

/-- A trigger as a record. -/
def toFields (t : Trigger) : Fields := [
  ("trigger_type", .text t.kind.text),
  ("field", Value.ofText? t.field),
  ("from_value", Value.ofText? t.fromValue),
  ("to_value", Value.ofText? t.toValue),
  ("conditions", Condition.listToValue t.conditions),
  ("date_field", Value.ofText? t.dateField),
  ("offset_days", Value.ofOption Amount.toValue t.offsetDays),
  ("offset_direction", Value.ofText? t.offsetDirection)]

/-- A text that is there and not empty. -/
def given? (s : Option String) : Option String := s.filter (· ≠ "")

/-- A value that is read in place of one that counts as nothing. -/
def orElse (v w : Value) : Value := if v.isTruthy then v else w

/-- The text by which the stage of a record is told: the watched field, or else the stage or
its identifier. -/
def stageText (fields : Fields) (field : Option String) : Except Failure String :=
  match given? field with
  | some f => (fields.get f).stringify
  | none => (orElse (fields.get "stage") (fields.get "stageId")).stringify

/-- Whether a move from one text to another is a change within the narrowing. -/
def admitsMove (t : Trigger) (previous current : String) : Bool :=
  previous != current
    && (given? t.fromValue).all (previous == ·)
    && (given? t.toValue).all (current == ·)

/-- Whether the values before and after the change are within the narrowing. -/
def admitsChange (t : Trigger) (kind : Open TriggerKind) (context : Context) :
    Except Failure Bool :=
  match kind with
  | .known .fieldChanged =>
    match given? t.field with
    | some f => do
      let previous ← (context.previous f .null).stringify
      let current ← (context.get f .null).stringify
      return t.admitsMove previous current
    | none => .ok true
  | .known .stageChanged => do
    let previous ← stageText (context.previousValues.getD []) t.field
    let current ← stageText context.entity t.field
    return t.admitsMove previous current
  | _ => .ok true

/-- Whether a trigger fires for an event. -/
def fires (t : Trigger) (kind : Open TriggerKind) (context : Context) : Except Failure Bool :=
  if t.kind = kind then do
    if ← t.admitsChange kind context then
      Condition.evalAll context.entity t.conditions
    else return false
  else .ok false

/-- Whether any of the triggers fires, tried in order. -/
def anyFires (kind : Open TriggerKind) (context : Context) : List Trigger → Except Failure Bool
  | [] => .ok false
  | t :: ts =>
    match t.fires kind context with
    | .ok false => anyFires kind context ts
    | other => other

end Trigger
end RecordFlow
