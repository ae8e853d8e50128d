/-
# Dispatch — from a change to the runs it starts

Every active workflow whose triggers fire is started in the background, in run
order.  A run-once workflow is claimed first: while the key is claimed, or
once the ledger shows a completed run, it is not started again.  What fails
while workflows are chosen is logged, and the workflows chosen before it stay
started.
-/
import RecordFlow.Engine.Run

namespace RecordFlow.Dispatch

open Prog (ask attempt ofExcept)

/-- What tells a change in the log. -/
def logFields (kind : Open TriggerKind) (context : Context) : Fields := [
  ("trigger_type", .text kind.text),
  ("entity_type", .text context.entityType),
  ("entity_id", .text context.entityId)]

/-- What is logged of a workflow that may not run again. -/
def skipped (kind : Open TriggerKind) (context : Context) (workflowId : Uid) : LogEntry where
  level := .debug
  message := "Skipping run-once workflow"
  fields := logFields kind context ++ [("workflow_id", .text workflowId.toText)]

/-- What is logged when workflows cannot be chosen. -/
def matchingFailed (kind : Open TriggerKind) (context : Context) (f : Failure) : LogEntry where
  level := .error
  message := "Workflow trigger matching failed"
  fields := logFields kind context ++ [("error", .text f.message)]

/-- What is logged of a background run that failed. -/
def backgroundFailed (q : QueuedRun) (f : Failure) : LogEntry where
  level := .error
  message := "Background workflow run failed"
  fields := ("workflow_id", .text q.workflow.record.id.toText)
    :: logFields q.trigger q.context ++ [("error", .text f.message)]

/-- The key of a workflow for the record of a context. -/
def keyFor (w : Workflow) (context : Context) : RunKey :=
  { workflowId := w.id, entityType := context.entityType, entityId := context.entityId }

/-- Claims a key for a run.  The key is claimed before the ledger is looked at, and given back
when the ledger shows a completed run or cannot be looked at. -/
def claim (key : RunKey) : Prog Bool := do
  if !(← ask (.claim key)) then return false
  match ← attempt (ask (.hasCompleted key)) with
  | .error f => do
    ask (.release key)
    Prog.fail f
  | .ok true => do
    ask (.release key)
    return false
  | .ok false => return true

/-- Whether a workflow may run: a run-once workflow has to be claimed. -/
def mayRun (w : Workflow) (key : RunKey) : Prog Bool :=
  if w.runOnce then claim key else pure true

/-- Considers one workflow and tells whether it was started. -/
def consider (kind : Open TriggerKind) (context : Context) (w : Filed Workflow) : Prog Bool := do
  if !(← ofExcept (w.record.isEligible kind context)) then return false
  let key := keyFor w.record context
  if ← mayRun w.record key then
    ask (.start (.run { workflow := w, trigger := kind, context, key }))
    return true
  else
    ask (.log (skipped kind context w.record.id))
    return false

/-- Considers workflows in order; a failure ends this and is logged. -/
def considerAll (kind : Open TriggerKind) (context : Context) :
    List (Filed Workflow) → Prog (List Uid)
  | [] => pure []
  | w :: ws => do
    match ← attempt (consider kind context w) with
    | .error f => do
      ask (.log (matchingFailed kind context f))
      return []
    | .ok started => do
      let rest ← considerAll kind context ws
      return if started then w.record.id :: rest else rest

/-- Starts the runs that a change calls for and tells whose. -/
def dispatch (kind : Open TriggerKind) (context : Context) : Prog (List Uid) := do
  match ← attempt (ask (.listActive context.entityType kind)) with
  | .error f => do
    ask (.log (matchingFailed kind context f))
    return []
  | .ok ws => considerAll kind context ws

/-- A run in the background: what fails is logged, and the key is given back at the end. -/
def background (settings : Settings) (q : QueuedRun) : Prog Unit := do
  match ← attempt (Run.run settings q.workflow.record q.trigger q.context none) with
  | .ok _ => ask (.release q.key)
  | .error f => do
    ask (.log (backgroundFailed q f))
    ask (.release q.key)

end RecordFlow.Dispatch
