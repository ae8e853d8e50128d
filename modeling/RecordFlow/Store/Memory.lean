/-
# The store in memory — lists of records in the order of their first writing

Definitions and rules are shared with whoever registered them, deliveries with
the work that makes them, so they are filed by slot; executions are told apart
by their identifiers.
-/
import RecordFlow.Store.Filed
import RecordFlow.Store.Keyed
import RecordFlow.Execution
import RecordFlow.AssignmentRule
import RecordFlow.Delivery

namespace RecordFlow

/-- A store that keeps everything in memory. -/
structure MemoryStore where
  workflows : List (Filed Workflow) := []
  executions : List Execution := []
  rules : List (Filed AssignmentRule) := []
  deliveries : List (Filed Delivery) := []
deriving Repr, Inhabited

namespace MemoryStore

/-! ## Definitions and rules -/

/-- The identifier of a filed workflow. -/
def workflowKey (w : Filed Workflow) : Uid := w.record.id

/-- The identifier of a filed rule. -/
def ruleKey (r : Filed AssignmentRule) : Uid := r.record.id

/-- The store with a definition registered or replaced. -/
def addWorkflow (s : MemoryStore) (w : Filed Workflow) : MemoryStore :=
  { s with workflows := Keyed.put workflowKey w s.workflows }

/-- The store with a rule registered or replaced. -/
def addRule (s : MemoryStore) (r : Filed AssignmentRule) : MemoryStore :=
  { s with rules := Keyed.put ruleKey r s.rules }

/-- The definition with an identifier. -/
def getWorkflow (s : MemoryStore) (id : Uid) : Option (Filed Workflow) :=
  Keyed.find? workflowKey id s.workflows

/-- The rule with an identifier. -/
def getRule (s : MemoryStore) (id : Uid) : Option (Filed AssignmentRule) :=
  Keyed.find? ruleKey id s.rules

/-- Whether a definition is active, of a kind of entity, and has a trigger of a kind. -/
def isCandidate (entityType : String) (kind : Open TriggerKind) (w : Workflow) : Bool :=
  w.isActive && w.entityType = entityType && w.hasTrigger kind

/-- The active definitions for a kind of entity with a trigger of a kind, by run order. -/
def listActive (s : MemoryStore) (entityType : String) (kind : Open TriggerKind) :
    List (Filed Workflow) :=
  Workflow.inRunOrder Filed.record
    (s.workflows.filter fun w => isCandidate entityType kind w.record)

/-! ## Executions -/

/-- The store with an execution written. -/
def putExecution (s : MemoryStore) (e : Execution) : MemoryStore :=
  { s with executions := Keyed.put Execution.id e s.executions }

/-- The execution with an identifier. -/
def getExecution (s : MemoryStore) (id : RecordId) : Option Execution :=
  Keyed.find? Execution.id id s.executions

/-- Whether a workflow has completed a run for a record. -/
def hasCompleted (s : MemoryStore) (workflowId : Uid) (entityType entityId : String) : Bool :=
  s.executions.any fun e => e.isFor workflowId entityType entityId && e.isCompleted

/-- The executions of a workflow, in the order of their writing. -/
def listExecutions (s : MemoryStore) (workflowId : Uid) : List Execution :=
  s.executions.filter (·.workflowId = workflowId)

/-- The executions for a record, oldest first. -/
def listEntityExecutions (s : MemoryStore) (entityType entityId : String) :
    Except Failure (List Execution) :=
  let es := s.executions.filter fun e => e.entityType = entityType && e.entityId = entityId
  if Execution.haveOrder es then .ok (Execution.oldestFirst es) else .error .unsuited

/-- The store after one more run of a workflow. -/
def recordRun (s : MemoryStore) (id : Uid) (time : Instant) : MemoryStore :=
  { s with
    workflows := Keyed.modify workflowKey id (fun w => { w with record := w.record.recordRun time })
      s.workflows }

/-! ## Rotation -/

/-- The next place in a pool: the one after the last, counted round, from zero on. -/
def nextPlace (cursor size : Int) : Int := (cursor + 1).fmod size

/-- Moves a rule's cursor to the next place in a pool of the given size. -/
def advanceRotation (s : MemoryStore) (id : Uid) (size : Int) :
    Except Failure (Option Int × MemoryStore) :=
  match s.getRule id with
  | none => .ok (none, s)
  | some r =>
    if size = 0 then .error .emptyRotation
    else
      let place := nextPlace r.record.cursor size
      let turned := fun (r : Filed AssignmentRule) =>
        { r with record := { r.record with cursor := place } }
      .ok (some place, { s with rules := Keyed.modify ruleKey id turned s.rules })

/-! ## Deliveries -/

/-- The identifier of a filed delivery. -/
def deliveryKey (d : Filed Delivery) : RecordId := d.record.id

/-- The store with a delivery written. -/
def putDelivery (s : MemoryStore) (d : Filed Delivery) : MemoryStore :=
  { s with deliveries := Keyed.put deliveryKey d s.deliveries }

end MemoryStore
end RecordFlow
