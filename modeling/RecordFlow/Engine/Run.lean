/-
# Runs — one workflow for one record, with its ledger entry

A run opens an execution, runs the top-level actions in the order of their
positions up to the first that fails, and closes the execution.  The entry is
shared with the store while it grows, so whoever looks in between sees how far
the run has come.  If the loop over the actions itself stops, the entry is
closed as failed before the failure goes on.
-/
import RecordFlow.Engine.Runner

namespace RecordFlow.Run

open Prog (ask attempt ofExcept)

/-- What tells a run in the log. -/
def logFields (workflowId : Uid) (e : Execution) : Fields := [
  ("workflow_id", .text workflowId.toText),
  ("execution_id", .text e.id.executionText),
  ("trigger_type", .text e.trigger.text),
  ("entity_type", .text e.entityType),
  ("entity_id", .text e.entityId)]

/-- What is logged of a run whose actions could not be gone through. -/
def runRaised (workflowId : Uid) (e : Execution) (f : Failure) : LogEntry where
  level := .error
  message := "Workflow run raised"
  fields := logFields workflowId e ++ [("error", .text f.message)]

/-- What is logged of a run that has ended. -/
def runFinished (workflowId : Uid) (e : Execution) : LogEntry where
  level := .info
  message := "Workflow run finished"
  fields := logFields workflowId e
    ++ [("status", .text e.status.text), ("actions_executed", .int e.actionsExecuted)]

/-- How far the actions of a run have come. -/
inductive Progress where
  /-- All actions have run. -/
  | through (e : Execution)
  /-- An action failed; its outcome is the last. -/
  | stopped (e : Execution) (error : Option String)
  /-- The loop itself stopped. -/
  | raised (e : Execution) (failure : Failure)
deriving Repr

/-- The actions that a run goes through: those that are no child of a branch, in order. -/
def topLevel (w : Workflow) : List Action := w.orderedActions.filter (·.parentId.isNone)

/-- Goes through the actions up to the first that fails, writing each outcome to the entry. -/
def runActions (site : Runner.Site) : List Action → Execution → Prog Progress
  | [], e => pure (.through e)
  | action :: rest, e => do
    match ← attempt (Runner.execute site action) with
    | .error f => return .raised e f
    | .ok outcome =>
      let e := e.append outcome
      if outcome.status = .failed then return .stopped e outcome.errorText?
      ask (.publishExecution e)
      runActions site rest e

/-- Closes the entry of a run that has ended, counts the run and tells the bus. -/
def finish (workflowId : Uid) (e : Execution) : Prog Execution := do
  ask (.publishExecution e)
  let _ ← ask (.finishExecution e)
  ask (.recordRun workflowId (e.completedAt.getD default))
  ask (.log (runFinished workflowId e))
  ask (.emit (if e.isCompleted then .completed else .failed) e)
  return e

/-- Closes the entry of a run whose loop stopped, and lets the failure go on. -/
def abort (workflowId : Uid) (e : Execution) (f : Failure) : Prog Execution := do
  ask (.log (runRaised workflowId e f))
  let now ← ask .now
  let e := e.closeFailed (some f.report) now
  ask (.publishExecution e)
  let _ ← ask (.finishExecution e)
  ask (.emit .failed e)
  Prog.fail f

/-- Runs a workflow for the record of a context. -/
def run (settings : Settings) (workflow : Workflow) (trigger : Open TriggerKind)
    (context : Context) (triggeredBy : Option String) : Prog Execution := do
  let now ← ask .now
  let e ← ask (.openExecution (Execution.opening workflow trigger context triggeredBy now))
  ask (.emit .started e)
  let site : Runner.Site :=
    { settings, context, workflowId := some workflow.id, executionId := some e.id }
  match ← runActions site (topLevel workflow) e with
  | .raised e f => abort workflow.id e f
  | .stopped e error => do
    let now ← ask .now
    finish workflow.id (e.closeFailed error now)
  | .through e => do
    let now ← ask .now
    finish workflow.id (e.closeCompleted now)

/-- Runs the workflow with an identifier, whatever its triggers say. -/
def runById (settings : Settings) (id : Uid) (trigger : Open TriggerKind) (context : Context)
    (triggeredBy : Option String) : Prog RecordId := do
  match ← ask (.getWorkflow id) with
  | none => Prog.fail (.workflowNotFound id)
  | some workflow =>
    let e ← run settings workflow.record trigger context triggeredBy
    return e.id

end RecordFlow.Run
