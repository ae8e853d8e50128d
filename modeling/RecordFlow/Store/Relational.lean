/-
# The relational store — six tables of rows

Everything is kept by value: what is read is a copy, and a later change of it
does not reach the table.  Every operation is one transaction, which either
does all it says or changes nothing.  What a transaction wrote is read back: an
insertion reads it after the transaction, so that a row with a word that
cannot be read stays although the insertion fails; a change of a row reads it
before the transaction ends, and such a row is then left as it was.
-/
import RecordFlow.Store.Filed
import RecordFlow.Store.Keyed
import RecordFlow.Store.Rows

namespace RecordFlow

/-- A store that keeps everything in tables; rows stand in the order of their insertion. -/
structure RelationalStore where
  workflows : List WorkflowRow := []
  triggers : List TriggerRow := []
  actions : List ActionRow := []
  executions : List ExecutionRow := []
  rules : List RuleRow := []
  deliveries : List DeliveryRow := []
deriving Repr, Inhabited

namespace RelationalStore

/-- Rows with one more, whose key has to be new. -/
def insertRow {κ ρ : Type} [DecidableEq κ] (key : ρ → κ) (rows : List ρ) (row : ρ) :
    Except Failure (List ρ) :=
  if (Keyed.find? key (key row) rows).isSome then .error .duplicateKey else .ok (rows ++ [row])

/-- An insertion with the reading back of what was inserted: the reading may fail, and then the
insertion has been made all the same. -/
def inserting {α : Type} (s : RelationalStore) (after : Except Failure RelationalStore)
    (read : RelationalStore → Except Failure α) : Except Failure Unit × RelationalStore :=
  match after with
  | .error f => (.error f, s)
  | .ok t => ((fun _ => ()) <$> read t, t)

/-! ## Workflows -/

/-- The triggers of a workflow.  Words that cannot be read are found in the order of the
words. -/
def triggersOf (s : RelationalStore) (id : Uid) : Except Failure (List Trigger) := do
  let rows := s.triggers.filter (·.workflowId = id)
  let _ ← (TriggerRow.byWord rows).mapM (·.kind.read)
  rows.mapM TriggerRow.toTrigger

/-- The actions of a workflow, by position. -/
def actionsOf (s : RelationalStore) (id : Uid) : Except Failure (List Action) :=
  (ActionRow.byPosition (s.actions.filter (·.workflowId = id))).mapM ActionRow.toAction

/-- The definition that a row begins. -/
def assemble (s : RelationalStore) (r : WorkflowRow) : Except Failure Workflow := do
  let status ← r.status.readOpen
  let triggers ← s.triggersOf r.id
  let actions ← s.actionsOf r.id
  return r.toWorkflow status triggers actions

/-- The definition with an identifier. -/
def getWorkflow (s : RelationalStore) (id : Uid) : Except Failure (Option Workflow) :=
  (Keyed.find? WorkflowRow.id id s.workflows).mapM s.assemble

/-- Inserts the rows of a definition: that of the workflow, then those of its actions, then
those of its triggers.  The identifiers of workflow and actions have to be new.  Configurations
are made records, and documents are made of what goes into one table, before its rows are
inserted one by one. -/
def insertWorkflow (s : RelationalStore) (w : Workflow) : Except Failure RelationalStore := do
  let configs ← w.actions.mapM (·.config.asPairs)
  let workflows ← insertRow WorkflowRow.id s.workflows (← WorkflowRow.ofWorkflow w)
  let documents ← configs.mapM (Value.documentPairs [])
  let actions ← (w.actions.zip documents).foldlM (fun rows (action, config) => do
    insertRow ActionRow.id rows (← ActionRow.ofAction w.id action config)) s.actions
  let conditions ← w.triggers.mapM fun t => Condition.toDocument t.conditions
  let triggers ← (w.triggers.zip conditions).mapM fun (t, c) => TriggerRow.ofTrigger w.id t c
  return { s with workflows, actions, triggers := s.triggers ++ triggers }

/-- Adds a definition to the store. -/
def addWorkflow (s : RelationalStore) (w : Workflow) : Except Failure Unit × RelationalStore :=
  s.inserting (s.insertWorkflow w) (·.getWorkflow w.id)

/-- Whether a workflow has a trigger row of a kind. -/
def hasTriggerRow (s : RelationalStore) (id : Uid) (kind : Open TriggerKind) : Bool :=
  s.triggers.any fun t => t.workflowId = id && t.kind = .ofOpen kind

/-- The active definitions for a kind of entity with a trigger of a kind, by run order. -/
def listActive (s : RelationalStore) (entityType : String) (kind : Open TriggerKind) :
    Except Failure (List Workflow) :=
  let rows := s.workflows.filter fun r =>
    r.entityType = entityType && r.status = .ofOpen (.known .active) && s.hasTriggerRow r.id kind
  (Amount.inOrder WorkflowRow.runOrder rows).mapM s.assemble

/-- The store after one more run of a workflow. -/
def recordRun (s : RelationalStore) (id : Uid) (time : Instant) : RelationalStore :=
  let counted := fun (r : WorkflowRow) =>
    { r with totalExecutions := Column.succ r.totalExecutions, lastExecutedAt := some time.unzoned }
  { s with workflows := Keyed.modify WorkflowRow.id id counted s.workflows }

/-! ## Executions -/

/-- The execution with an identifier. -/
def getExecution (s : RelationalStore) (id : RecordId) : Except Failure (Option Execution) :=
  (Keyed.find? ExecutionRow.id id s.executions).mapM ExecutionRow.toExecution

/-- Inserts the row of an execution; its identifier has to be new. -/
def insertExecution (s : RelationalStore) (e : Execution) : Except Failure RelationalStore := do
  let executions ← insertRow ExecutionRow.id s.executions (← ExecutionRow.ofExecution e)
  return { s with executions }

/-- Adds an execution to the store. -/
def addExecution (s : RelationalStore) (e : Execution) : Except Failure Unit × RelationalStore :=
  s.inserting (s.insertExecution e) (·.getExecution e.id)

/-- The store with the end of a run written to its row, which is read before and after. -/
def finishExecution (s : RelationalStore) (e : Execution) : Except Failure RelationalStore :=
  match Keyed.find? ExecutionRow.id e.id s.executions with
  | none => .error .rowNotFound
  | some r => do
    let _ ← r.toExecution
    let row ← r.finish e
    let _ ← row.toExecution
    return { s with executions := Keyed.modify ExecutionRow.id e.id (fun _ => row) s.executions }

/-- Whether a workflow has completed a run for a record. -/
def hasCompleted (s : RelationalStore) (workflowId : Uid) (entityType entityId : String) : Bool :=
  s.executions.any (·.isCompletedFor workflowId entityType entityId)

/-- The executions of a workflow, oldest first. -/
def listExecutions (s : RelationalStore) (workflowId : Uid) : Except Failure (List Execution) :=
  (ExecutionRow.oldestFirst (s.executions.filter (·.workflowId = workflowId))).mapM
    ExecutionRow.toExecution

/-- The executions for a record, oldest first. -/
def listEntityExecutions (s : RelationalStore) (entityType entityId : String) :
    Except Failure (List Execution) :=
  let rows := s.executions.filter fun r => r.entityType = entityType && r.entityId = entityId
  (ExecutionRow.oldestFirst rows).mapM ExecutionRow.toExecution

/-- A page of a list; a negative limit is no limit. -/
def page {α : Type} (limit offset : Int) (xs : List α) : List α :=
  let rest := xs.drop offset.toNat
  if limit < 0 then rest else rest.take limit.toNat

/-- The rows of a workflow's executions, with a status if one is asked for, newest first. -/
def matching (s : RelationalStore) (workflowId : Uid) (status : Option (Open RunStatus)) :
    List ExecutionRow :=
  ExecutionRow.newestFirst
    (s.executions.filter fun r => r.workflowId = workflowId && status.all (r.status = .ofOpen ·))

/-- A page of a workflow's executions, newest first, and the total.  The total is read off the
rows of the page, so an empty page has the total zero. -/
def findByWorkflow (s : RelationalStore) (workflowId : Uid) (status : Option (Open RunStatus))
    (limit offset : Int) : Except Failure (List RecordId × Nat) := do
  let limit ← Column.whole limit
  let offset ← Column.whole offset
  let rows := s.matching workflowId status
  let found ← (page limit offset rows).mapM ExecutionRow.toExecution
  return (found.map (·.id), if found.isEmpty then 0 else rows.length)

/-! ## Rules -/

/-- The rule with an identifier. -/
def getRule (s : RelationalStore) (id : Uid) : Except Failure (Option AssignmentRule) :=
  (Keyed.find? RuleRow.id id s.rules).mapM RuleRow.toRule

/-- Inserts the row of a rule; its identifier has to be new. -/
def insertRule (s : RelationalStore) (r : AssignmentRule) : Except Failure RelationalStore := do
  let rules ← insertRow RuleRow.id s.rules (← RuleRow.ofRule r)
  return { s with rules }

/-- Adds a rule to the store. -/
def addRule (s : RelationalStore) (r : AssignmentRule) : Except Failure Unit × RelationalStore :=
  s.inserting (s.insertRule r) (·.getRule r.id)

/-- The active rules for a kind of entity, by priority. -/
def listRules (s : RelationalStore) (entityType : String) : Except Failure (List AssignmentRule) :=
  (RuleRow.byPriority (s.rules.filter fun r => r.entityType = entityType && r.isActive)).mapM
    RuleRow.toRule

/-- A whole number as the nearest floating-point number, which is whole again. -/
def inFloatingPoint (n : Int) : Int := ((Binary64.ofInt? n).bind Binary64.toInt?).getD n

/-- The next place in a pool; the remainder keeps the sign of the place after the last.  After
the greatest whole number that a column holds there is none, and in floating point the
remainder is that of the greatest number itself. -/
def nextPlace (cursor size : Int) : Int :=
  if cursor < Column.greatest then (cursor + 1).tmod size
  else inFloatingPoint (Column.greatest.tmod size)

/-- Moves a rule's cursor to the next place in a pool of the given size; nobody's place in an
empty pool is no value that the column can hold. -/
def advanceRotation (s : RelationalStore) (id : Uid) (size : Int) :
    Except Failure (Option Int × RelationalStore) := do
  let size ← Column.whole size
  match Keyed.find? RuleRow.id id s.rules with
  | none => return (none, s)
  | some r =>
    if size = 0 then throw .constraintBroken
    let place := nextPlace r.cursor size
    let turned := fun (r : RuleRow) => { r with cursor := place }
    return (some place, { s with rules := Keyed.modify RuleRow.id id turned s.rules })

/-! ## Deliveries -/

/-- The delivery with an identifier. -/
def getDelivery (s : RelationalStore) (id : RecordId) : Except Failure (Option Delivery) :=
  (Keyed.find? DeliveryRow.id id s.deliveries).mapM DeliveryRow.toDelivery

/-- The store with a delivery's row replaced but for the time of creation. -/
def replaceDelivery (s : RelationalStore) (old : DeliveryRow) (d : Delivery) :
    Except Failure RelationalStore := do
  let _ ← old.toDelivery
  let row ← DeliveryRow.ofDelivery d
  let _ ← row.toDelivery
  return { s with
    deliveries := Keyed.put DeliveryRow.id { row with createdAt := old.createdAt } s.deliveries }

/-- Inserts the row of a delivery. -/
def insertDelivery (s : RelationalStore) (d : Delivery) : Except Failure RelationalStore := do
  let deliveries ← insertRow DeliveryRow.id s.deliveries (← DeliveryRow.ofDelivery d)
  return { s with deliveries }

/-- Adds a delivery to the store, or replaces the row that it has. -/
def saveDelivery (s : RelationalStore) (d : Delivery) : Except Failure Unit × RelationalStore :=
  match Keyed.find? DeliveryRow.id d.id s.deliveries with
  | none => s.inserting (s.insertDelivery d) (·.getDelivery d.id)
  | some old =>
    match s.replaceDelivery old d with
    | .ok t => (.ok (), t)
    | .error f => (.error f, s)

/-- The failed deliveries, newest first, up to a number of them. -/
def listFailed (s : RelationalStore) (limit : Int) : Except Failure (List Delivery) := do
  let limit ← Column.whole limit
  let rows := s.deliveries.filter (·.status = .ofOpen (.known .failed))
  (page limit 0 (DeliveryRow.newestFirst rows)).mapM DeliveryRow.toDelivery

end RelationalStore
end RecordFlow
