/-
# Assignment rules — policies for choosing the owner of a record

A rule names a method and what the method needs: a user, a pool of candidates
with a cursor that goes round, or a map from the values of a field to users.
-/
import RecordFlow.Condition

namespace RecordFlow

/-- A policy for choosing an owner. -/
structure AssignmentRule where
  id : Uid
  name : String := "rule"
  entityType : String
  method : Open AssignmentMethod
  isActive : Bool := true
  priority : Amount := .whole 0
  assignToUserId : Option String := none
  /-- The team whose members are the pool when no users are named. -/
  teamId : Option String := none
  userIds : List String := []
  territoryField : Option String := none
  territoryMap : List (String × Option String) := []
  conditions : List Condition := []
  /-- The place in the pool that was handed out last. -/
  cursor : Int := 0
  description : Option String := none
deriving Repr, Inhabited

namespace AssignmentRule

/-- A rule as a record. -/
def toFields (r : AssignmentRule) : Fields := [
  ("id", .text r.id.toText),
  ("name", .text r.name),
  ("description", Value.ofText? r.description),
  ("entity_type", .text r.entityType),
  ("method", .text r.method.text),
  ("is_active", .bool r.isActive),
  ("priority", r.priority.toValue),
  ("assign_to_user_id", Value.ofText? r.assignToUserId),
  ("team_id", Value.ofText? r.teamId),
  ("user_ids", .list (r.userIds.map .text)),
  ("territory_field", Value.ofText? r.territoryField),
  ("territory_map", .record (r.territoryMap.map fun m => (m.1, Value.ofText? m.2))),
  ("conditions", Condition.listToValue r.conditions),
  ("last_assigned_index", .int r.cursor)]

/-- The user of a territory: the one the map names for the text of the watched field. -/
def territoryUser (rule : AssignmentRule) (entity : Fields) : Except Failure (Option String) :=
  match rule.territoryField.filter (· ≠ "") with
  | none => .ok none
  | some field => do
    let key ← (entity.get field).stringify
    return ((rule.territoryMap.lookup key).join).filter (· ≠ "")

end AssignmentRule
end RecordFlow
