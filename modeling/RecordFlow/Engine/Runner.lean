/-
# The action runner — one action and its outcome

An action is read into its configuration and performed.  Whatever fails on the
way becomes a failed outcome; the runner itself does not fail.  An action of a
foreign kind is skipped, and so is a delay, which is not waited for.
-/
import RecordFlow.Engine.Assignment
import RecordFlow.Template
import RecordFlow.Value.Body
import RecordFlow.Action.Outcome

namespace RecordFlow.Runner

open Prog (ask attempt ofExcept)

/-- Where an action runs: the settings, the change, and the run it belongs to. -/
structure Site where
  settings : Settings
  context : Context
  workflowId : Option Uid := none
  executionId : Option RecordId := none
deriving Repr

/-- The first text that is there and not empty, or else the last one. -/
def firstGiven (texts : List (Option String)) (last : String) : String :=
  ((texts.filterMap Assignment.given?).head?).getD last

/-- A template with the fields of the record put in. -/
def Site.render (site : Site) (template : String) : Prog String :=
  ofExcept (Template.render template site.context.entity)

/-- A template that may be missing, with the fields of the record put in. -/
def Site.render? (site : Site) : Option String → Prog (Option String)
  | none => pure none
  | some template => some <$> site.render template

/-! ## The kinds of action -/

/-- Logs an e-mail to the address in a field of the record. -/
def sendEmail (site : Site) (c : EmailConfig) : Prog Value := do
  let recipient ← ofExcept (Template.fieldText site.context.entity c.toField)
  let subject ← site.render c.subject
  let body ← site.render c.body
  let id ← ask (.logEmail {
    subject
    body
    fromEmail := site.settings.emailFrom
    toEmails := if recipient = "" then [] else [recipient]
    relatedType := site.context.entityType
    relatedId := site.context.entityId })
  let told := if recipient = "" then Value.null else .text recipient
  return .record [("emailLogId", .text id), ("to", told)]

/-- The day on which a task is due: none when the number of days counts as nothing. -/
def dueDate (now : Instant) (days : Option Binary64) : Except Failure (Option Instant) :=
  match days.filter (!·.isZero) with
  | none => .ok none
  | some days =>
    match Instant.spanOfDays days with
    | .error problem => .error (.badSpan problem)
    | .ok span =>
      match now.shift? span with
      | some due => .ok (some due)
      | none => .error .dateOutOfRange

/-- Creates a task for the assignee, or else for the actor, or else for the system. -/
def createTask (site : Site) (c : TaskConfig) : Prog Value := do
  let now ← ask .now
  let due ← ofExcept (dueDate now c.dueInDays)
  let title ← site.render c.title
  let description ← site.render? c.description
  let id ← ask (.createTask {
    title
    description
    priority := c.priority
    assigneeId := firstGiven [c.assigneeId, site.context.actorId] site.settings.systemUserId
    dueDate := due
    relatedType := site.context.entityType
    relatedId := site.context.entityId })
  return .record [("taskId", .text id)]

/-- Writes a field of the record. -/
def updateField (site : Site) (c : FieldConfig) : Prog Value := do
  ask (.updateField site.context.entityType site.context.entityId c.field c.value)
  return .null

/-- The headers of a request: the type of its content, unless the configuration names one,
and the configured ones. -/
def requestHeaders (headers : List (String × String)) : List (String × String) :=
  headers.foldl (fun hs h => Keyed.put Prod.fst h hs) [("Content-Type", "application/json")]

/-- The content of a request: the rendered template, or else the record. -/
def requestContent (site : Site) (c : WebhookConfig) : Prog String :=
  match c.bodyTemplate with
  | some template => site.render template
  | none => ofExcept (Value.record site.context.entity).body

/-- Logs a delivery and starts it in the background. -/
def submit (d : Delivery) (headers : List (String × String)) (content : String) :
    Prog Delivery := do
  let now ← ask .now
  let delivery ← ask (.openDelivery { d with createdAt := now })
  ask (.start (.delivery { delivery, headers, content }))
  return delivery

/-- Submits a webhook. -/
def sendWebhook (site : Site) (actionId : Uid) (c : WebhookConfig) : Prog Value := do
  let content ← requestContent site c
  let delivery ← submit
    { url := c.url
      method := c.method
      actionId
      workflowId := site.workflowId
      executionId := site.executionId
      createdAt := default }
    (requestHeaders c.headers) content
  return .record [("deliveryId", .text delivery.id.deliveryText)]

/-- Writes the owner that the configuration asks for, if there is one. -/
def assignOwner (site : Site) (c : OwnerConfig) : Prog Value := do
  let owner ← Assignment.ownerFor c site.context
  if let some user := Assignment.given? owner then
    ask (.updateField site.context.entityType site.context.entityId site.settings.ownerField
      (.text user))
  return .record [("ownerId", Value.ofText? owner)]

/-- The name of the tag to change, if there is one and the records of the kind carry tags. -/
def tagToChange (site : Site) (c : TagConfig) : Prog (Option String) := do
  let taggable ← ask (.findAdapter site.context.entityType)
  return if taggable = some true then Assignment.given? c.tagName else none

/-- Attaches a tag to the record. -/
def addTag (site : Site) (c : TagConfig) : Prog Value := do
  match ← tagToChange site c with
  | none => return .null
  | some name => do
    let tag ← ask (.upsertTag name)
    ask (.connectTag site.context.entityType site.context.entityId tag)
    return .record [("tagId", .text tag)]

/-- Detaches a tag from the record, if there is such a tag. -/
def removeTag (site : Site) (c : TagConfig) : Prog Value := do
  match ← tagToChange site c with
  | none => return .null
  | some name => do
    match ← ask (.findTag name) with
    | none => return .null
    | some tag => do
      ask (.disconnectTag site.context.entityType site.context.entityId tag)
      return .record [("tagId", .text tag)]

/-- Creates an entry of the activity log. -/
def createActivity (site : Site) (c : ActivityConfig) : Prog Value := do
  let title ← site.render c.title
  let description ← site.render? c.description
  let id ← ask (.createActivity {
    activityType := c.activityType
    title
    description
    userId := firstGiven [site.context.actorId] site.settings.systemUserId
    relatedType := site.context.entityType
    relatedId := site.context.entityId })
  return .record [("activityId", .text id)]

/-- Tells whether the conditions of a branch are met. -/
def decideBranch (site : Site) (c : BranchConfig) : Prog Value := do
  let met ← ofExcept (Condition.evalAll site.context.entity c.conditions)
  return .record [("conditionsMet", .bool met)]

/-! ## Performing an action -/

/-- Performs a configuration and tells how it ended and what it did. -/
def perform (site : Site) (action : Action) (kind : ActionKind) (config : ActionConfig) :
    Prog (OutcomeStatus × Value) :=
  let succeed := fun (p : Prog Value) => (fun v => (OutcomeStatus.success, v)) <$> p
  match config with
  | .email c => succeed (sendEmail site c)
  | .task c => succeed (createTask site c)
  | .field c => succeed (updateField site c)
  | .webhook c => succeed (sendWebhook site action.id c)
  | .owner c => succeed (assignOwner site c)
  | .tag c => succeed (if kind = .addTag then addTag site c else removeTag site c)
  | .activity c => succeed (createActivity site c)
  | .delay _ => pure (.skipped, .null)
  | .branch c => succeed (decideBranch site c)

/-- What is logged of an action of a foreign kind. -/
def unknownKind (action : Action) : LogEntry where
  level := .debug
  message := "Skipping unknown action type"
  fields := [("action_id", .text action.id.toText), ("action_type", .text action.kind.text)]

/-- What is logged of an action that failed. -/
def actionFailed (site : Site) (action : Action) (e : Failure) : LogEntry where
  level := .warning
  message := "Workflow action failed"
  fields := [
    ("workflow_id", Value.ofText? (site.workflowId.map Uid.toText)),
    ("execution_id", Value.ofText? (site.executionId.map RecordId.executionText)),
    ("action_id", .text action.id.toText),
    ("action_type", .text action.kind.text),
    ("entity_type", .text site.context.entityType),
    ("entity_id", .text site.context.entityId),
    ("error", .text e.message)]

/-- Runs one action. -/
def execute (site : Site) (action : Action) : Prog ActionOutcome := do
  ask .enterRunner
  match action.kind with
  | .foreign _ => do
    ask (.log (unknownKind action))
    return { actionId := action.id, kind := action.kind, status := .skipped }
  | .known kind => do
    let ended ← attempt do
      let config ← ofExcept (ActionConfig.read kind action.config)
      perform site action kind config
    match ended with
    | .ok (status, result) =>
      return { actionId := action.id, kind := .known kind, status, result }
    | .error e => do
      ask (.log (actionFailed site action e))
      return ActionOutcome.failed action.id kind e.report

end RecordFlow.Runner
