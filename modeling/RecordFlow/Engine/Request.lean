/-
# Requests — what the engine asks of the world around it

The engine's own work is pure; everything else it asks for, one request at a
time: from the store, the CRM services, the entity adapters, the event bus,
the HTTP client, the clock, the log, and from its own book of background work.
Each request is answered in one indivisible step.
-/
import RecordFlow.Engine.Log
import RecordFlow.Store.Store
import RecordFlow.Crm.Services
import RecordFlow.Crm.Adapter
import RecordFlow.Settings

namespace RecordFlow

/-- What a run-once workflow is claimed by: the workflow and the record. -/
structure RunKey where
  workflowId : Uid
  entityType : String
  entityId : String
deriving DecidableEq, Repr, Inhabited

/-- A run that has been started in the background and has not begun. -/
structure QueuedRun where
  workflow : Filed Workflow
  trigger : Open TriggerKind
  context : Context
  key : RunKey
deriving Repr, Inhabited

/-- A delivery that has been submitted and has not begun. -/
structure QueuedDelivery where
  delivery : Delivery
  headers : List (String × String)
  content : String
deriving Repr, Inhabited

/-- Work that has been started in the background and has not begun. -/
inductive Background where
  | run (run : QueuedRun)
  | delivery (job : QueuedDelivery)
deriving Repr, Inhabited

/-- The events of a run that the bus is told of. -/
inductive RunEvent where
  | started | completed | failed
deriving DecidableEq, Repr

/-- The type of an event as the bus knows it. -/
def RunEvent.text : RunEvent → String
  | started => "execution.started"
  | completed => "execution.completed"
  | failed => "execution.failed"

/-- What the bus is told of an execution. -/
def RunEvent.payload (e : Execution) : Fields := [
  ("execution_id", .text e.id.executionText),
  ("workflow_id", .text e.workflowId.toText),
  ("status", .text e.status.text),
  ("entity_type", .text e.entityType),
  ("entity_id", .text e.entityId)]

/-- Something asked of the world around the engine. -/
inductive Request where
  /- The store's definitions. -/
  | listActive (entityType : String) (kind : Open TriggerKind)
  | getWorkflow (id : Uid)
  | recordRun (id : Uid) (time : Instant)
  /- The store's ledger. -/
  | hasCompleted (key : RunKey)
  /-- Stores an execution under a fresh identifier. -/
  | openExecution (e : Execution)
  /-- Stores an execution under the identifier it has. -/
  | createExecution (e : Execution)
  /-- Lets the holders of a shared execution see what has become of it. -/
  | publishExecution (e : Execution)
  | finishExecution (e : Execution)
  | getExecution (id : RecordId)
  | listExecutions (workflowId : Uid)
  | listEntityExecutions (entityType entityId : String)
  | findByWorkflow (workflowId : Uid) (status : Option (Open RunStatus)) (limit offset : Int)
  /- The store's rules. -/
  | getRule (id : Uid)
  | listRules (entityType : String)
  | advanceRotation (id : Uid) (size : Int)
  /-- Writes the cursor of a rule at hand. -/
  | writeCursor (rule : Filed AssignmentRule) (place : Int)
  /-- Moves the cursor of a rule at hand to the next place in a pool. -/
  | turnCursor (rule : Filed AssignmentRule) (size : Int)
  /- The store's deliveries. -/
  /-- Stores a delivery under a fresh identifier. -/
  | openDelivery (d : Delivery)
  /-- Lets the holders of a shared delivery see what has become of it. -/
  | publishDelivery (d : Delivery)
  /-- Stores a delivery that the work holds which makes it. -/
  | saveDelivery (d : Delivery)
  /-- Stores a delivery that nobody else holds. -/
  | fileDelivery (d : Delivery)
  | listDeliveries
  | listFailed (limit : Int)
  /- The CRM services. -/
  | createTask (t : TaskRecord)
  | createActivity (a : ActivityRecord)
  | logEmail (e : EmailRecord)
  | upsertTag (name : String)
  | findTag (name : String)
  | teamMembers (teamId : String)
  /- The entity adapters. -/
  /-- Whether the records of a kind carry tags, if there is an adapter for the kind. -/
  | findAdapter (entityType : String)
  | snapshot (entityType entityId : String)
  | updateField (entityType entityId field : String) (value : Value)
  | countOwned (entityType : String) (user : Value)
  | connectTag (entityType entityId tag : String)
  | disconnectTag (entityType entityId tag : String)
  /- The event bus and the action runner. -/
  | emit (event : RunEvent) (e : Execution)
  | enterRunner
  /- The HTTP client. -/
  /-- Waits for a permit and sends a request. -/
  | beginExchange (d : Delivery) (headers : List (String × String)) (content : String)
  /-- Waits for the end of the request and gives the permit back. -/
  | endExchange (url : String)
  /-- Waits before the next attempt. -/
  | pause (url : String) (delay : Binary64)
  /-- Lets the others go on first. -/
  | giveWay
  /- Clock and log. -/
  | now
  | log (entry : LogEntry)
  /- Background work. -/
  /-- Claims a key unless it is claimed already. -/
  | claim (key : RunKey)
  | release (key : RunKey)
  | start (work : Background)
deriving Inhabited

/-- What a request is answered with. -/
abbrev Request.Answer : Request → Type
  | listActive .. => List (Filed Workflow)
  | getWorkflow _ => Option (Filed Workflow)
  | hasCompleted _ => Bool
  | openExecution _ | createExecution _ | finishExecution _ => Execution
  | getExecution _ => Option Execution
  | listExecutions _ | listEntityExecutions .. => List Execution
  | findByWorkflow .. => List RecordId × Nat
  | getRule _ => Option (Filed AssignmentRule)
  | listRules _ => List AssignmentRule
  | advanceRotation .. => Option Int
  | turnCursor .. => Int
  | openDelivery _ | saveDelivery _ | fileDelivery _ => Delivery
  | listDeliveries | listFailed _ => List Delivery
  | createTask _ | createActivity _ | logEmail _ | upsertTag _ => String
  | findTag _ => Option String
  | teamMembers _ => List String
  | findAdapter _ => Option Bool
  | snapshot .. => Option Fields
  | countOwned .. => Nat
  | endExchange _ => Exchange
  | now => Instant
  | claim _ => Bool
  | recordRun .. | publishExecution _ | writeCursor .. | publishDelivery _ | updateField ..
  | connectTag .. | disconnectTag .. | emit .. | enterRunner | beginExchange .. | pause ..
  | giveWay | log _ | release _ | start _ => Unit

end RecordFlow
