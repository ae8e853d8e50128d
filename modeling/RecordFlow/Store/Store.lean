/-
# Stores — one interface over the two kinds

The engine works with either kind of store.  An operation that only one kind
has is refused by the other.
-/
import RecordFlow.Store.Memory
import RecordFlow.Store.Relational

namespace RecordFlow

/-- A store of either kind. -/
inductive Store where
  | memory (m : MemoryStore)
  | relational (r : RelationalStore)
deriving Repr, Inhabited

namespace Store

/-- A copy of a record that was read. -/
def copy {α : Type} (record : α) : Filed α := ⟨none, record⟩

/-- The active definitions for a kind of entity with a trigger of a kind, by run order. -/
def listActive (s : Store) (entityType : String) (kind : Open TriggerKind) :
    Except Failure (List (Filed Workflow)) :=
  match s with
  | memory m => .ok (m.listActive entityType kind)
  | relational r => (·.map copy) <$> r.listActive entityType kind

/-- The definition with an identifier. -/
def getWorkflow (s : Store) (id : Uid) : Except Failure (Option (Filed Workflow)) :=
  match s with
  | memory m => .ok (m.getWorkflow id)
  | relational r => (·.map copy) <$> r.getWorkflow id

/-- The rule with an identifier. -/
def getRule (s : Store) (id : Uid) : Except Failure (Option (Filed AssignmentRule)) :=
  match s with
  | memory m => .ok (m.getRule id)
  | relational r => (·.map copy) <$> r.getRule id

/-- The slot of a definition that the store shares with others. -/
def workflowSlot (s : Store) (id : Uid) : Option Nat :=
  match s with
  | memory m => (m.getWorkflow id).bind (·.slot)
  | relational _ => none

/-- The slot of a rule that the store shares with others. -/
def ruleSlot (s : Store) (id : Uid) : Option Nat :=
  match s with
  | memory m => (m.getRule id).bind (·.slot)
  | relational _ => none

/-- Stores a definition.  A failure may come after the change, as with all that adds to the
relational store. -/
def addWorkflow (s : Store) (w : Filed Workflow) : Except Failure Unit × Store :=
  match s with
  | memory m => (.ok (), memory (m.addWorkflow w))
  | relational r => (r.addWorkflow w.record).map id relational

/-- Stores a rule. -/
def addRule (s : Store) (rule : Filed AssignmentRule) : Except Failure Unit × Store :=
  match s with
  | memory m => (.ok (), memory (m.addRule rule))
  | relational r => (r.addRule rule.record).map id relational

/-- Whether a workflow has completed a run for a record. -/
def hasCompleted (s : Store) (workflowId : Uid) (entityType entityId : String) : Bool :=
  match s with
  | memory m => m.hasCompleted workflowId entityType entityId
  | relational r => r.hasCompleted workflowId entityType entityId

/-- Stores an execution that begins. -/
def createExecution (s : Store) (e : Execution) : Except Failure Unit × Store :=
  match s with
  | memory m => (.ok (), memory (m.putExecution e))
  | relational r => (r.addExecution e).map id relational

/-- What the holders of a shared execution see of a change to it. -/
def publishExecution (s : Store) (e : Execution) : Store :=
  match s with
  | memory m =>
    memory { m with executions := Keyed.modify Execution.id e.id (fun _ => e) m.executions }
  | relational r => relational r

/-- Stores the end of an execution. -/
def finishExecution (s : Store) (e : Execution) : Except Failure Unit × Store :=
  match s with
  | memory m => (.ok (), memory (m.putExecution e))
  | relational r =>
    match r.finishExecution e with
    | .ok t => (.ok (), relational t)
    | .error f => (.error f, s)

/-- The execution with an identifier. -/
def getExecution (s : Store) (id : RecordId) : Except Failure (Option Execution) :=
  match s with
  | memory m => .ok (m.getExecution id)
  | relational r => r.getExecution id

/-- The executions of a workflow. -/
def listExecutions (s : Store) (workflowId : Uid) : Except Failure (List Execution) :=
  match s with
  | memory m => .ok (m.listExecutions workflowId)
  | relational r => r.listExecutions workflowId

/-- The executions for a record, oldest first. -/
def listEntityExecutions (s : Store) (entityType entityId : String) :
    Except Failure (List Execution) :=
  match s with
  | memory m => m.listEntityExecutions entityType entityId
  | relational r => r.listEntityExecutions entityType entityId

/-- Counts one more run of a workflow. -/
def recordRun (s : Store) (id : Uid) (time : Instant) : Store :=
  match s with
  | memory m => memory (m.recordRun id time)
  | relational r => relational (r.recordRun id time)

/-- Moves a rule's cursor to the next place in a pool of the given size. -/
def advanceRotation (s : Store) (id : Uid) (size : Int) :
    Except Failure (Option Int × Store) :=
  match s with
  | memory m => (fun x => (x.1, memory x.2)) <$> m.advanceRotation id size
  | relational r => (fun x => (x.1, relational x.2)) <$> r.advanceRotation id size

/-- Stores a delivery. -/
def saveDelivery (s : Store) (d : Filed Delivery) : Except Failure Unit × Store :=
  match s with
  | memory m => (.ok (), memory (m.putDelivery d))
  | relational r => (r.saveDelivery d.record).map id relational

/-- What the holders of a shared delivery see of a change to it. -/
def publishDelivery (s : Store) (d : Filed Delivery) : Store :=
  match s with
  | memory m =>
    memory { m with deliveries := Filed.editAll d.slot (fun _ => d.record) m.deliveries }
  | relational r => relational r

/-- The log of deliveries. -/
def listDeliveries (s : Store) : Except Failure (List Delivery) :=
  match s with
  | memory m => .ok (m.deliveries.map Filed.record)
  | relational _ => .error .noSuchOperation

/-- The failed deliveries, newest first, up to a number of them. -/
def listFailed (s : Store) (limit : Int) : Except Failure (List Delivery) :=
  match s with
  | memory _ => .error .noSuchOperation
  | relational r => r.listFailed limit

/-- The active rules for a kind of entity, by priority. -/
def listRules (s : Store) (entityType : String) : Except Failure (List AssignmentRule) :=
  match s with
  | memory _ => .error .noSuchOperation
  | relational r => r.listRules entityType

/-- A page of a workflow's executions, newest first, and the total. -/
def findByWorkflow (s : Store) (workflowId : Uid) (status : Option (Open RunStatus))
    (limit offset : Int) : Except Failure (List RecordId × Nat) :=
  match s with
  | memory _ => .error .noSuchOperation
  | relational r => r.findByWorkflow workflowId status limit offset

/-- An edit of the definition in a slot. -/
def editWorkflow (s : Store) (slot : Option Nat) (f : Workflow → Workflow) : Store :=
  match s with
  | memory m => memory { m with workflows := Filed.editAll slot f m.workflows }
  | relational r => relational r

/-- An edit of the rule in a slot. -/
def editRule (s : Store) (slot : Option Nat) (f : AssignmentRule → AssignmentRule) : Store :=
  match s with
  | memory m => memory { m with rules := Filed.editAll slot f m.rules }
  | relational r => relational r

end Store
end RecordFlow
