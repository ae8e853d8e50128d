/-
# Rows — the records of the relational store

One row type per table.  A workflow is spread over three tables, its triggers
and actions naming it by identifier; conditions, configurations and outcomes
stand in document columns.  Writing a row fails where a column cannot hold
what it is given, reading one where a word in it is no member of the column's
vocabulary.
-/
import RecordFlow.Execution
import RecordFlow.AssignmentRule
import RecordFlow.Delivery
import RecordFlow.Store.Columns

namespace RecordFlow

namespace Condition

/-- Conditions as a document column keeps them. -/
def toDocument (cs : List Condition) : Except Failure Value :=
  (Value.list (cs.map fun c => .record c.toFields)).document

/-- The conditions in a document column. -/
def ofDocument (v : Value) : Except Failure (List Condition) :=
  ((v.items?.getD []).filterMap Value.fields?).mapM ofFields

end Condition

/-! ## Workflows -/

/-- A row of the workflow table. -/
structure WorkflowRow where
  id : Uid
  name : String
  description : Option String
  entityType : String
  status : ColumnWord WorkflowStatus
  runOnce : Bool
  runOrder : Amount
  totalExecutions : Amount
  lastExecutedAt : Option Instant
deriving Repr

/-- A row of the trigger table. -/
structure TriggerRow where
  workflowId : Uid
  kind : ColumnWord TriggerKind
  field : Option String
  fromValue : Option String
  toValue : Option String
  conditions : Value
  dateField : Option String
  offsetDays : Option Amount
  offsetDirection : Option String
deriving Repr

/-- A row of the action table. -/
structure ActionRow where
  id : Uid
  workflowId : Uid
  kind : String
  position : Amount
  config : Fields
  parentId : Option Uid
  branch : Option (ColumnWord BranchSide)
deriving Repr

/-- The row of a workflow. -/
def WorkflowRow.ofWorkflow (w : Workflow) : Except Failure WorkflowRow := do
  Column.checkBounds [w.runOrder, w.totalExecutions]
  return {
    id := w.id
    name := w.name
    description := w.description
    entityType := w.entityType
    status := .ofOpen w.status
    runOnce := w.runOnce
    runOrder := ← Column.amount w.runOrder
    totalExecutions := ← Column.amount w.totalExecutions
    lastExecutedAt := w.lastExecutedAt.map Instant.unzoned }

/-- The row of a workflow's trigger, with its conditions as a document. -/
def TriggerRow.ofTrigger (workflowId : Uid) (t : Trigger) (conditions : Value) :
    Except Failure TriggerRow := do
  return {
    workflowId
    kind := .ofOpen t.kind
    field := t.field
    fromValue := t.fromValue
    toValue := t.toValue
    conditions
    dateField := t.dateField
    offsetDays := ← Column.amount? t.offsetDays
    offsetDirection := t.offsetDirection }

/-- The trigger in a row. -/
def TriggerRow.toTrigger (r : TriggerRow) : Except Failure Trigger := do
  return {
    kind := ← r.kind.readOpen
    field := r.field
    fromValue := r.fromValue
    toValue := r.toValue
    conditions := ← Condition.ofDocument r.conditions
    dateField := r.dateField
    offsetDays := r.offsetDays
    offsetDirection := r.offsetDirection }

/-- Rows in the order of their words, keeping their order among equals. -/
def TriggerRow.byWord (rs : List TriggerRow) : List TriggerRow :=
  rs.mergeSort fun a b => !(b.kind.text < a.kind.text)

/-- The row of a workflow's action, with its configuration as a document. -/
def ActionRow.ofAction (workflowId : Uid) (a : Action) (config : Fields) :
    Except Failure ActionRow := do
  return {
    id := a.id
    workflowId
    kind := a.kind.text
    position := ← Column.amount a.position
    config
    parentId := a.parentId
    branch := a.branch.map .ofOpen }

/-- The action in a row. -/
def ActionRow.toAction (r : ActionRow) : Except Failure Action := do
  return {
    id := r.id
    kind := Open.ofText r.kind
    position := r.position
    config := .record r.config
    parentId := r.parentId
    branch := ← r.branch.mapM ColumnWord.readOpen }

/-- Rows by position, keeping their order among equals. -/
def ActionRow.byPosition (rs : List ActionRow) : List ActionRow :=
  Amount.inOrder ActionRow.position rs

/-- The workflow in a row, with the triggers and actions of its other rows. -/
def WorkflowRow.toWorkflow (r : WorkflowRow) (status : Open WorkflowStatus)
    (triggers : List Trigger) (actions : List Action) : Workflow where
  id := r.id
  name := r.name
  entityType := r.entityType
  status := status
  runOnce := r.runOnce
  runOrder := r.runOrder
  triggers := triggers
  actions := actions
  description := r.description
  totalExecutions := r.totalExecutions
  lastExecutedAt := r.lastExecutedAt

/-! ## Executions -/

/-- A row of the execution table. -/
structure ExecutionRow where
  id : RecordId
  workflowId : Uid
  trigger : ColumnWord TriggerKind
  triggeredBy : Option String
  entityType : String
  entityId : String
  status : ColumnWord RunStatus
  actionsExecuted : Int
  outcomes : Value
  errorMessage : Option String
  startedAt : Instant
  completedAt : Option Instant
deriving Repr

namespace ExecutionRow

/-- Outcomes as a value. -/
def outcomesValue (os : List ActionOutcome) : Value :=
  .list (os.map fun o => .record o.toFields)

/-- Outcomes in the place of a document; one that is equal to them is kept. -/
def replaceOutcomes (old : Value) (os : List ActionOutcome) : Except Failure Value :=
  match Value.equal (outcomesValue os) old with
  | .ok true => .ok old
  | .ok false => (outcomesValue os).document
  | .error f => .error f

/-- The outcomes in a document column. -/
def readOutcomes (v : Value) : Except Failure (List ActionOutcome) :=
  ((v.items?.getD []).filterMap Value.fields?).mapM ActionOutcome.ofFields

/-- The row of an execution that begins: an error and an end are not written yet. -/
def ofExecution (e : Execution) : Except Failure ExecutionRow := do
  let outcomes ← (outcomesValue e.outcomes).document
  return {
    id := e.id
    workflowId := e.workflowId
    trigger := .ofOpen e.trigger
    triggeredBy := e.triggeredBy
    entityType := e.entityType
    entityId := e.entityId
    status := .ofOpen e.status
    actionsExecuted := ← Column.whole e.actionsExecuted
    outcomes
    errorMessage := none
    startedAt := e.startedAt.unzoned
    completedAt := none }

/-- The row with what the end of a run writes. -/
def finish (r : ExecutionRow) (e : Execution) : Except Failure ExecutionRow := do
  let outcomes ← replaceOutcomes r.outcomes e.outcomes
  return { r with
    status := .ofOpen e.status
    actionsExecuted := ← Column.whole e.actionsExecuted
    outcomes
    errorMessage := e.errorMessage
    completedAt := e.completedAt.map Instant.unzoned }

/-- The execution in a row. -/
def toExecution (r : ExecutionRow) : Except Failure Execution := do
  return {
    id := r.id
    workflowId := r.workflowId
    trigger := ← r.trigger.readOpen
    entityType := r.entityType
    entityId := r.entityId
    triggeredBy := r.triggeredBy
    status := ← r.status.readOpen
    actionsExecuted := r.actionsExecuted
    outcomes := ← readOutcomes r.outcomes
    errorMessage := r.errorMessage
    startedAt := r.startedAt
    completedAt := r.completedAt }

/-- Whether the row is of a completed run of a workflow for a record. -/
def isCompletedFor (r : ExecutionRow) (workflowId : Uid) (entityType entityId : String) : Bool :=
  r.workflowId = workflowId && r.entityType = entityType && r.entityId = entityId
    && r.status = .ofOpen (.known .completed)

/-- Rows from the oldest start to the newest, keeping their order among equals. -/
def oldestFirst (rs : List ExecutionRow) : List ExecutionRow :=
  rs.mergeSort fun a b => a.startedAt.civil ≤ b.startedAt.civil

/-- Rows from the newest start to the oldest, keeping their order among equals. -/
def newestFirst (rs : List ExecutionRow) : List ExecutionRow :=
  rs.mergeSort fun a b => b.startedAt.civil ≤ a.startedAt.civil

end ExecutionRow

/-! ## Rules -/

/-- A row of the rule table. -/
structure RuleRow where
  id : Uid
  name : String
  description : Option String
  entityType : String
  isActive : Bool
  priority : Amount
  method : ColumnWord AssignmentMethod
  assignToUserId : Option String
  teamId : Option String
  userIds : List String
  territoryField : Option String
  territoryMap : List (String × Option String)
  conditions : Value
  cursor : Int
deriving Repr

namespace RuleRow

/-- The row of a rule. -/
def ofRule (r : AssignmentRule) : Except Failure RuleRow := do
  let conditions ← Condition.toDocument r.conditions
  Column.checkBounds [r.priority, .whole r.cursor]
  return {
    id := r.id
    name := r.name
    description := r.description
    entityType := r.entityType
    isActive := r.isActive
    priority := ← Column.amount r.priority
    method := .ofOpen r.method
    assignToUserId := r.assignToUserId
    teamId := r.teamId
    userIds := r.userIds
    territoryField := r.territoryField
    territoryMap := r.territoryMap
    conditions
    cursor := r.cursor }

/-- The rule in a row. -/
def toRule (r : RuleRow) : Except Failure AssignmentRule := do
  return {
    id := r.id
    name := r.name
    entityType := r.entityType
    method := ← r.method.readOpen
    isActive := r.isActive
    priority := r.priority
    assignToUserId := r.assignToUserId
    teamId := r.teamId
    userIds := r.userIds
    territoryField := r.territoryField
    territoryMap := r.territoryMap
    conditions := ← Condition.ofDocument r.conditions
    cursor := r.cursor
    description := r.description }

/-- Rows by priority, the least first, keeping their order among equals. -/
def byPriority (rs : List RuleRow) : List RuleRow :=
  Amount.inOrder RuleRow.priority rs

end RuleRow

/-! ## Deliveries -/

/-- A row of the delivery table. -/
structure DeliveryRow where
  id : RecordId
  url : String
  method : String
  actionId : Uid
  workflowId : Option Uid
  executionId : Option RecordId
  status : ColumnWord DeliveryStatus
  attempts : Int
  responseStatus : Option Int
  error : Option String
  createdAt : Instant
  completedAt : Option Instant
deriving Repr

namespace DeliveryRow

/-- The row of a delivery.  The time of creation is kept by a clock with universal time. -/
def ofDelivery (d : Delivery) : Except Failure DeliveryRow := do
  return {
    id := d.id
    url := d.url
    method := d.method
    actionId := d.actionId
    workflowId := d.workflowId
    executionId := d.executionId
    status := .ofOpen d.status
    attempts := ← Column.whole d.attempts
    responseStatus := ← Column.whole? d.responseStatus
    error := d.error
    createdAt := d.createdAt.inUniversal
    completedAt := d.completedAt.map Instant.unzoned }

/-- The delivery in a row. -/
def toDelivery (r : DeliveryRow) : Except Failure Delivery := do
  return {
    id := r.id
    url := r.url
    method := r.method
    actionId := r.actionId
    workflowId := r.workflowId
    executionId := r.executionId
    status := ← r.status.readOpen
    attempts := r.attempts
    responseStatus := r.responseStatus
    error := r.error
    createdAt := r.createdAt
    completedAt := r.completedAt }

/-- Rows from the newest to the oldest, keeping their order among equals. -/
def newestFirst (rs : List DeliveryRow) : List DeliveryRow :=
  rs.mergeSort fun a b => b.createdAt.civil ≤ a.createdAt.civil

end DeliveryRow
end RecordFlow
