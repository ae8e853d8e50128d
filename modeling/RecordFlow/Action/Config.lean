/-
# Action configurations — the stored record of an action, read by kind

An action stores its configuration as a loose record.  Before the action runs,
the record is read into the configuration of its kind, one type per kind, with
defaults for what is missing; what cannot be read is reported with the kind of
the action and the reason.  A text may be given by any value; one that has no
text stops the reading.
-/
import RecordFlow.Condition

namespace RecordFlow

/-- What an e-mail action needs. -/
structure EmailConfig where
  toField : String
  subject : String
  body : String
deriving Repr

/-- What a task action needs. -/
structure TaskConfig where
  title : String
  description : Option String
  dueInDays : Option Binary64
  assigneeId : Option String
  priority : String
deriving Repr

/-- What a field update needs. -/
structure FieldConfig where
  field : String
  value : Value
deriving Repr

/-- What a webhook action needs. -/
structure WebhookConfig where
  url : String
  method : String
  headers : List (String × String)
  bodyTemplate : Option String
deriving Repr

/-- What an owner assignment needs: a user, or else a rule that finds one. -/
structure OwnerConfig where
  userId : Option String
  ruleId : Option String
deriving Repr

/-- What a change of tags needs. -/
structure TagConfig where
  tagName : Option String
deriving Repr

/-- What an activity action needs. -/
structure ActivityConfig where
  activityType : String
  title : String
  description : Option String
deriving Repr

/-- What a delay names; delays are read but not waited for. -/
structure DelayConfig where
  amount : Option Binary64
  unit : Option String
deriving Repr

/-- What a condition branch decides by. -/
structure BranchConfig where
  conditions : List Condition
deriving Repr

/-- The configuration of an action. -/
inductive ActionConfig where
  | email (c : EmailConfig)
  | task (c : TaskConfig)
  | field (c : FieldConfig)
  | webhook (c : WebhookConfig)
  | owner (c : OwnerConfig)
  | tag (c : TagConfig)
  | activity (c : ActivityConfig)
  | delay (c : DelayConfig)
  | branch (c : BranchConfig)
deriving Repr

namespace ActionConfig

/-! ## Reading single keys -/

/-- The text under a key; null and the empty text count as missing. -/
def optionalText (raw : Fields) (key : String) : Except Failure (Option String) :=
  let v := raw.get key
  if v.isBlank then .ok none else some <$> v.plainText

/-- The text under a key, or another one when it is missing. -/
def textOr (fallback : String) (raw : Fields) (key : String) : Except Failure String := do
  return (← optionalText raw key).getD fallback

/-- The text under a key that has to be there. -/
def requiredText (kind : ActionKind) (raw : Fields) (key : String) : Except Failure String := do
  match ← optionalText raw key with
  | some s => return s
  | none => throw (.badConfig kind (.missing key))

/-- The floating-point number that a value is or writes: truth values are numbers here, and a
text may write one. -/
def readNumber (kind : ActionKind) (key : String) (v : Value) : Except Failure Binary64 :=
  let refuse := do
    let shown ← v.shown
    throw (Failure.badConfig kind (.notANumber key shown))
  match v with
  | .bool b => .ok (.finite false (if b then Binary64.one else 0))
  | .int n =>
    match Binary64.ofInt? n with
    | some x => .ok x
    | none => .error .integerTooLarge
  | .float x => .ok x
  | .decimal d =>
    match d.toBinary64? with
    | some x => .ok x
    | none => refuse
  | .text s =>
    match Numeral.toBinary64? s with
    | some x => .ok x
    | none => refuse
  | _ => refuse

/-- The number under a key; null and the empty text count as missing. -/
def optionalNumber (kind : ActionKind) (raw : Fields) (key : String) :
    Except Failure (Option Binary64) :=
  let v := raw.get key
  if v.isBlank then .ok none else some <$> readNumber kind key v

/-! ## Reading the kinds -/

/-- Reads an e-mail configuration. -/
def readEmail (raw : Fields) : Except Failure EmailConfig := do
  return {
    toField := ← textOr "email" raw "toField"
    subject := ← textOr "Workflow Email" raw "subject"
    body := ← textOr "" raw "body" }

/-- Reads a task configuration. -/
def readTask (raw : Fields) : Except Failure TaskConfig := do
  return {
    title := ← textOr "Workflow Task" raw "title"
    description := ← optionalText raw "description"
    dueInDays := ← optionalNumber .createTask raw "dueInDays"
    assigneeId := ← optionalText raw "assigneeId"
    priority := ← textOr (Vocabulary.text TaskPriority.medium) raw "priority" }

/-- Reads a field update. -/
def readField (raw : Fields) : Except Failure FieldConfig := do
  let field ← requiredText .updateField raw "field"
  return { field, value := raw.get "value" }

/-- The headers under their key: nothing, or a record. -/
def readHeaders (v : Value) : Except Failure Fields :=
  if v.isTruthy then
    match v with
    | .record fs => .ok fs
    | _ => .error (.badConfig .sendWebhook .headersNotAnObject)
  else .ok []

/-- A header, whose value is taken as a text. -/
def headerText (header : String × Value) : Except Failure (String × String) := do
  return (header.1, ← header.2.plainText)

/-- Reads a webhook configuration. -/
def readWebhook (raw : Fields) : Except Failure WebhookConfig := do
  let headers ← readHeaders (raw.get "headers")
  return {
    url := ← requiredText .sendWebhook raw "url"
    method := Text.upper (← textOr "POST" raw "method")
    headers := ← headers.mapM headerText
    bodyTemplate := ← optionalText raw "bodyTemplate" }

/-- Reads an owner assignment. -/
def readOwner (raw : Fields) : Except Failure OwnerConfig := do
  return {
    userId := ← optionalText raw "userId"
    ruleId := ← optionalText raw "assignmentRuleId" }

/-- Reads a change of tags. -/
def readTag (raw : Fields) : Except Failure TagConfig := do
  return { tagName := ← optionalText raw "tagName" }

/-- Reads an activity. -/
def readActivity (raw : Fields) : Except Failure ActivityConfig := do
  return {
    activityType := ← textOr (Vocabulary.text ActivityKind.note) raw "activityType"
    title := ← textOr "Workflow Activity" raw "activityTitle"
    description := ← optionalText raw "description" }

/-- Reads a delay. -/
def readDelay (raw : Fields) : Except Failure DelayConfig := do
  return {
    amount := ← optionalNumber .waitDelay raw "delayAmount"
    unit := ← optionalText raw "delayUnit" }

/-- Reads the conditions of a branch: nothing, or a list, of which the records count. -/
def readBranch (raw : Fields) : Except Failure BranchConfig :=
  let v := raw.get "conditions"
  if v.isTruthy then
    match v with
    | .list vs => BranchConfig.mk <$> (vs.filterMap Value.fields?).mapM Condition.ofFields
    | _ => .error (.badConfig .conditionBranch .conditionsNotAList)
  else .ok ⟨[]⟩

/-- A configuration as a record. -/
def toFields : ActionConfig → Fields
  | email c =>
    [("to_field", .text c.toField), ("subject", .text c.subject), ("body", .text c.body)]
  | task c =>
    [("title", .text c.title), ("description", Value.ofText? c.description),
      ("due_in_days", Value.ofOption .float c.dueInDays),
      ("assignee_id", Value.ofText? c.assigneeId), ("priority", .text c.priority)]
  | field c => [("field", .text c.field), ("value", c.value)]
  | webhook c =>
    [("url", .text c.url), ("method", .text c.method),
      ("headers", .record (c.headers.map fun h => (h.1, .text h.2))),
      ("body_template", Value.ofText? c.bodyTemplate)]
  | owner c =>
    [("user_id", Value.ofText? c.userId), ("assignment_rule_id", Value.ofText? c.ruleId)]
  | tag c => [("tag_name", Value.ofText? c.tagName)]
  | activity c =>
    [("activity_type", .text c.activityType), ("activity_title", .text c.title),
      ("description", Value.ofText? c.description)]
  | delay c => [("amount", Value.ofOption .float c.amount), ("unit", Value.ofText? c.unit)]
  | branch c => [("conditions", Condition.listToValue c.conditions)]

/-- Reads a configuration record of the given kind. -/
def readFields (kind : ActionKind) (raw : Fields) : Except Failure ActionConfig :=
  match kind with
  | .sendEmail => .email <$> readEmail raw
  | .createTask => .task <$> readTask raw
  | .updateField => .field <$> readField raw
  | .sendWebhook => .webhook <$> readWebhook raw
  | .assignOwner => .owner <$> readOwner raw
  | .addTag | .removeTag => .tag <$> readTag raw
  | .createActivity => .activity <$> readActivity raw
  | .waitDelay => .delay <$> readDelay raw
  | .conditionBranch => .branch <$> readBranch raw

/-- Reads what an action of the given kind has stored; null is the empty record. -/
def read (kind : ActionKind) (stored : Value) : Except Failure ActionConfig :=
  match stored with
  | .null => readFields kind []
  | .record raw => readFields kind raw
  | _ => .error (.badConfig kind .notAnObject)

end ActionConfig
end RecordFlow
