/-
# Kinds — the closed vocabularies of the domain

Every vocabulary is an inductive type with its name, its members in order and
the text of each.  What is stored is text, so a stored word may be none of the
members; `Open` is a vocabulary together with such foreign words, and a
foreign word is equal to itself only.  A column of a table holds a member by
its name, which is its text but for the two vocabularies whose texts are in
small letters.
-/

namespace RecordFlow

/-! ## Vocabularies -/

/-- A closed vocabulary: its name, its members in order, and the text of a member. -/
class Vocabulary (α : Type) where
  /-- The name under which the vocabulary is known. -/
  title : String
  /-- The members in order. -/
  members : List α
  /-- The stored text of a member. -/
  text : α → String
  /-- The name of a member, by which a column of a table holds it. -/
  name : α → String := text

namespace Vocabulary

/-- The member with this text. -/
def find? {α : Type} [Vocabulary α] (s : String) : Option α :=
  ((members : List α)).find? (text · == s)

end Vocabulary

/-- A stored word: a member of the vocabulary, or a foreign word. -/
inductive Open (α : Type) where
  | known (member : α)
  | foreign (word : String)
deriving DecidableEq, Repr

namespace Open

/-- The word that a stored text stands for. -/
def ofText {α : Type} [Vocabulary α] (s : String) : Open α :=
  match Vocabulary.find? s with
  | some a => known a
  | none => foreign s

/-- The stored text of a word. -/
def text {α : Type} [Vocabulary α] : Open α → String
  | known a => Vocabulary.text a
  | foreign s => s

instance {α : Type} [Inhabited α] : Inhabited (Open α) := ⟨known default⟩

end Open

/-! ## The vocabularies -/

/-- Where a workflow definition is in its life; only active ones are dispatched. -/
inductive WorkflowStatus where
  | draft | active | paused | archived
deriving DecidableEq, Repr, Inhabited

instance : Vocabulary WorkflowStatus where
  title := "WorkflowStatus"
  members := [.draft, .active, .paused, .archived]
  text
    | .draft => "DRAFT"
    | .active => "ACTIVE"
    | .paused => "PAUSED"
    | .archived => "ARCHIVED"

/-- The events in a record's life that a workflow can react to. -/
inductive TriggerKind where
  | recordCreated | recordUpdated | fieldChanged | stageChanged | dateBased | manual
deriving DecidableEq, Repr, Inhabited

instance : Vocabulary TriggerKind where
  title := "TriggerType"
  members := [.recordCreated, .recordUpdated, .fieldChanged, .stageChanged, .dateBased, .manual]
  text
    | .recordCreated => "RECORD_CREATED"
    | .recordUpdated => "RECORD_UPDATED"
    | .fieldChanged => "FIELD_CHANGED"
    | .stageChanged => "STAGE_CHANGED"
    | .dateBased => "DATE_BASED"
    | .manual => "MANUAL"

/-- The steps that a workflow can take. -/
inductive ActionKind where
  | sendEmail | createTask | updateField | sendWebhook | assignOwner | addTag | removeTag
  | createActivity | waitDelay | conditionBranch
deriving DecidableEq, Repr, Inhabited

instance : Vocabulary ActionKind where
  title := "ActionType"
  members := [.sendEmail, .createTask, .updateField, .sendWebhook, .assignOwner, .addTag,
    .removeTag, .createActivity, .waitDelay, .conditionBranch]
  text
    | .sendEmail => "SEND_EMAIL"
    | .createTask => "CREATE_TASK"
    | .updateField => "UPDATE_FIELD"
    | .sendWebhook => "SEND_WEBHOOK"
    | .assignOwner => "ASSIGN_OWNER"
    | .addTag => "ADD_TAG"
    | .removeTag => "REMOVE_TAG"
    | .createActivity => "CREATE_ACTIVITY"
    | .waitDelay => "WAIT_DELAY"
    | .conditionBranch => "CONDITION_BRANCH"

/-- The side of a condition branch that a child action belongs to. -/
inductive BranchSide where
  | whenTrue | whenFalse
deriving DecidableEq, Repr, Inhabited

instance : Vocabulary BranchSide where
  title := "BranchType"
  members := [.whenTrue, .whenFalse]
  text
    | .whenTrue => "TRUE"
    | .whenFalse => "FALSE"

/-- Where a run is: in progress, or ended one way or the other. -/
inductive RunStatus where
  | running | completed | failed
deriving DecidableEq, Repr, Inhabited

instance : Vocabulary RunStatus where
  title := "ExecutionStatus"
  members := [.running, .completed, .failed]
  text
    | .running => "running"
    | .completed => "completed"
    | .failed => "failed"
  name
    | .running => "RUNNING"
    | .completed => "COMPLETED"
    | .failed => "FAILED"

/-- How one action ended. -/
inductive OutcomeStatus where
  | success | failed | skipped
deriving DecidableEq, Repr, Inhabited

instance : Vocabulary OutcomeStatus where
  title := "ActionResultStatus"
  members := [.success, .failed, .skipped]
  text
    | .success => "success"
    | .failed => "failed"
    | .skipped => "skipped"

/-- How an assignment rule picks an owner. -/
inductive AssignmentMethod where
  | specificUser | roundRobin | territory | loadBalanced
deriving DecidableEq, Repr, Inhabited

instance : Vocabulary AssignmentMethod where
  title := "AssignmentMethod"
  members := [.specificUser, .roundRobin, .territory, .loadBalanced]
  text
    | .specificUser => "SPECIFIC_USER"
    | .roundRobin => "ROUND_ROBIN"
    | .territory => "TERRITORY"
    | .loadBalanced => "LOAD_BALANCED"

/-- The operators of conditions. -/
inductive Operator where
  | equals | notEquals | contains | notContains | startsWith | endsWith | greaterThan | lessThan
  | greaterThanOrEquals | lessThanOrEquals | isEmpty | isNotEmpty | isIn | isNotIn
deriving DecidableEq, Repr, Inhabited

instance : Vocabulary Operator where
  title := "ConditionOperator"
  members := [.equals, .notEquals, .contains, .notContains, .startsWith, .endsWith,
    .greaterThan, .lessThan, .greaterThanOrEquals, .lessThanOrEquals, .isEmpty, .isNotEmpty,
    .isIn, .isNotIn]
  text
    | .equals => "equals"
    | .notEquals => "not_equals"
    | .contains => "contains"
    | .notContains => "not_contains"
    | .startsWith => "starts_with"
    | .endsWith => "ends_with"
    | .greaterThan => "greater_than"
    | .lessThan => "less_than"
    | .greaterThanOrEquals => "greater_than_or_equals"
    | .lessThanOrEquals => "less_than_or_equals"
    | .isEmpty => "is_empty"
    | .isNotEmpty => "is_not_empty"
    | .isIn => "in"
    | .isNotIn => "not_in"

/-- How urgent a task is. -/
inductive TaskPriority where
  | low | medium | high | urgent
deriving DecidableEq, Repr, Inhabited

instance : Vocabulary TaskPriority where
  title := "TaskPriority"
  members := [.low, .medium, .high, .urgent]
  text
    | .low => "LOW"
    | .medium => "MEDIUM"
    | .high => "HIGH"
    | .urgent => "URGENT"

/-- What an entry of the activity log is about. -/
inductive ActivityKind where
  | note | call | email | meeting | task
deriving DecidableEq, Repr, Inhabited

instance : Vocabulary ActivityKind where
  title := "ActivityType"
  members := [.note, .call, .email, .meeting, .task]
  text
    | .note => "NOTE"
    | .call => "CALL"
    | .email => "EMAIL"
    | .meeting => "MEETING"
    | .task => "TASK"

/-- Where a webhook delivery is. -/
inductive DeliveryStatus where
  | pending | delivered | failed
deriving DecidableEq, Repr, Inhabited

instance : Vocabulary DeliveryStatus where
  title := "WebhookDeliveryStatus"
  members := [.pending, .delivered, .failed]
  text
    | .pending => "pending"
    | .delivered => "delivered"
    | .failed => "failed"
  name
    | .pending => "PENDING"
    | .delivered => "DELIVERED"
    | .failed => "FAILED"

/-! ## Look-up by name -/

/-- The texts of a vocabulary's members in order. -/
def Vocabulary.texts (α : Type) [Vocabulary α] : List String :=
  (members : List α).map text

/-- All vocabularies by name, each with its words in order. -/
def vocabularies : List (String × List String) := [
  (Vocabulary.title WorkflowStatus, Vocabulary.texts WorkflowStatus),
  (Vocabulary.title TriggerKind, Vocabulary.texts TriggerKind),
  (Vocabulary.title ActionKind, Vocabulary.texts ActionKind),
  (Vocabulary.title BranchSide, Vocabulary.texts BranchSide),
  (Vocabulary.title RunStatus, Vocabulary.texts RunStatus),
  (Vocabulary.title OutcomeStatus, Vocabulary.texts OutcomeStatus),
  (Vocabulary.title AssignmentMethod, Vocabulary.texts AssignmentMethod),
  (Vocabulary.title Operator, Vocabulary.texts Operator),
  (Vocabulary.title TaskPriority, Vocabulary.texts TaskPriority),
  (Vocabulary.title ActivityKind, Vocabulary.texts ActivityKind),
  (Vocabulary.title DeliveryStatus, Vocabulary.texts DeliveryStatus)]

end RecordFlow
