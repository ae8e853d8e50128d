/-
# Executions — the ledger entry of one run

An execution is opened when a run begins, gains the outcome of every action
that ran, and is closed once, completed or failed.
-/
import RecordFlow.RecordId
import RecordFlow.Action.Outcome
import RecordFlow.Workflow

namespace RecordFlow

/-- The record of one run of a workflow for one record. -/
structure Execution where
  id : RecordId := .issued 0
  workflowId : Uid
  trigger : Open TriggerKind
  entityType : String
  entityId : String
  triggeredBy : Option String := none
  status : Open RunStatus := .known .running
  /-- How many actions succeeded. -/
  actionsExecuted : Int := 0
  outcomes : List ActionOutcome := []
  errorMessage : Option String := none
  startedAt : Instant
  completedAt : Option Instant := none
deriving Repr, Inhabited

namespace Execution

/-- Whether the run has ended. -/
def isFinished (e : Execution) : Bool := e.status ≠ .known .running

/-- Whether the execution is of a workflow for a record. -/
def isFor (e : Execution) (workflowId : Uid) (entityType entityId : String) : Bool :=
  e.workflowId = workflowId && e.entityType = entityType && e.entityId = entityId

/-- Whether the run has been completed. -/
def isCompleted (e : Execution) : Bool := e.status = .known .completed

/-- The entry of a run that begins; its identifier is issued when it is stored. -/
def opening (workflow : Workflow) (trigger : Open TriggerKind) (context : Context)
    (triggeredBy : Option String) (now : Instant) : Execution :=
  { workflowId := workflow.id
    trigger
    entityType := context.entityType
    entityId := context.entityId
    triggeredBy := (triggeredBy.filter (· ≠ "")).or context.actorId
    startedAt := now }

/-- The entry after one more action. -/
def append (e : Execution) (o : ActionOutcome) : Execution :=
  { e with
    outcomes := e.outcomes ++ [o]
    actionsExecuted := if o.status = .success then e.actionsExecuted + 1 else e.actionsExecuted }

/-- The entry closed with a failure. -/
def closeFailed (e : Execution) (message : Option String) (now : Instant) : Execution :=
  { e with status := .known .failed, errorMessage := message, completedAt := some now }

/-- The entry closed after its last action. -/
def closeCompleted (e : Execution) (now : Instant) : Execution :=
  { e with status := .known .completed, completedAt := some now }

/-- An execution as a record. -/
def toFields (e : Execution) : Fields := [
  ("id", .text e.id.executionText),
  ("workflow_id", .text e.workflowId.toText),
  ("trigger_type", .text e.trigger.text),
  ("entity_type", .text e.entityType),
  ("entity_id", .text e.entityId),
  ("triggered_by", Value.ofText? e.triggeredBy),
  ("status", .text e.status.text),
  ("actions_executed", .int e.actionsExecuted),
  ("action_results", .list (e.outcomes.map fun o => .record o.toFields)),
  ("error_message", Value.ofText? e.errorMessage),
  ("started_at", .text e.startedAt.toText),
  ("completed_at", Value.ofText? (e.completedAt.map Instant.toText))]

/-- Whether executions can be put in the order of their starts: all of these are by clocks of
which it is known how far they are ahead, or none is. -/
def haveOrder (es : List Execution) : Bool :=
  es.all (·.startedAt.isZoned) || es.all (!·.startedAt.isZoned)

/-- Executions from the oldest to the newest, keeping their order among equals. -/
def oldestFirst (es : List Execution) : List Execution :=
  es.mergeSort fun a b => a.startedAt.universal ≤ b.startedAt.universal

end Execution
end RecordFlow
