/-
# Workflows — triggers and an ordered chain of actions

A workflow definition belongs to one kind of entity.  Its triggers say when it
is eligible, its actions say what it does; actions run in the order of their
positions, those of one position in the order of definition.
-/
import RecordFlow.Trigger
import RecordFlow.Number.Amount

namespace RecordFlow

/-- One step of a workflow. -/
structure Action where
  id : Uid
  kind : Open ActionKind
  position : Amount := .whole 0
  /-- The stored configuration, read when the action runs. -/
  config : Value := .record []
  /-- The branch that the action is a child of. -/
  parentId : Option Uid := none
  branch : Option (Open BranchSide) := none
deriving Repr, Inhabited

/-- A workflow definition with the statistics of its runs. -/
structure Workflow where
  id : Uid
  name : String := "wf"
  entityType : String
  status : Open WorkflowStatus := .known .draft
  /-- Whether the workflow is to be completed once per record at most. -/
  runOnce : Bool := false
  runOrder : Amount := .whole 0
  triggers : List Trigger := []
  actions : List Action := []
  description : Option String := none
  totalExecutions : Amount := .whole 0
  lastExecutedAt : Option Instant := none
deriving Repr, Inhabited

namespace Action

/-- An action as a record. -/
def toFields (a : Action) : Fields := [
  ("id", .text a.id.toText),
  ("action_type", .text a.kind.text),
  ("position", a.position.toValue),
  ("config", a.config),
  ("parent_action_id", Value.ofText? (a.parentId.map Uid.toText)),
  ("branch_type", Value.ofText? (a.branch.map Open.text))]

/-- Actions by position, keeping the order of definition among equal positions. -/
def inOrder (actions : List Action) : List Action := Amount.inOrder Action.position actions

end Action

namespace Workflow

/-- Whether a workflow takes part in dispatching. -/
def isActive (w : Workflow) : Bool := w.status = .known .active

/-- The actions of a workflow in the order of their running. -/
def orderedActions (w : Workflow) : List Action := Action.inOrder w.actions

/-- Whether a workflow has a trigger of a kind. -/
def hasTrigger (w : Workflow) (kind : Open TriggerKind) : Bool := w.triggers.any (·.kind = kind)

/-- Whether any trigger of a workflow fires for an event. -/
def isEligible (w : Workflow) (kind : Open TriggerKind) (context : Context) :
    Except Failure Bool :=
  Trigger.anyFires kind context w.triggers

/-- The statistics after one more run. -/
def recordRun (w : Workflow) (time : Instant) : Workflow :=
  { w with totalExecutions := w.totalExecutions.succ, lastExecutedAt := some time }

/-- A workflow as a record. -/
def toFields (w : Workflow) : Fields := [
  ("id", .text w.id.toText),
  ("name", .text w.name),
  ("description", Value.ofText? w.description),
  ("entity_type", .text w.entityType),
  ("status", .text w.status.text),
  ("run_once", .bool w.runOnce),
  ("run_order", w.runOrder.toValue),
  ("triggers", .list (w.triggers.map fun t => .record t.toFields)),
  ("actions", .list (w.actions.map fun a => .record a.toFields)),
  ("total_executions", w.totalExecutions.toValue),
  ("last_executed_at", Value.ofText? (w.lastExecutedAt.map Instant.toText))]

/-- Workflows by run order, keeping their order among equal ones. -/
def inRunOrder {α : Type} (workflow : α → Workflow) (ws : List α) : List α :=
  Amount.inOrder (fun w => (workflow w).runOrder) ws

end Workflow
end RecordFlow
