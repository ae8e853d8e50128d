/-
# Revisions — the tables of the relational store, step by step

A revision brings tables with their indexes.  Going up creates them in order;
going down drops the tables in reverse, so that no table is dropped before the
tables that refer to it.
-/
import RecordFlow.Schema.Table

namespace RecordFlow.Schema

/-- A table with the indexes that are created together with it. -/
structure TableDesign where
  table : Table
  indexes : List Index
deriving Repr

/-- A step in the history of the schema. -/
structure Revision where
  name : String
  /-- The revision that this one follows. -/
  follows : Option String := none
  label : Option String := none
  dependsOn : Option String := none
  tables : List TableDesign
deriving Repr

namespace TableDesign

/-- The statements that create a table with its indexes. -/
def creation (d : TableDesign) : List Statement :=
  .createTable d.table :: d.indexes.map .createIndex

end TableDesign

namespace Revision

/-- The statements that bring a revision in. -/
def upgrade (r : Revision) : List Statement := r.tables.flatMap TableDesign.creation

/-- The statements that take a revision back. -/
def downgrade (r : Revision) : List Statement :=
  r.tables.reverse.map fun d => .dropTable d.table.name

/-! ## Shorthands for columns -/

/-- A column that has to be filled. -/
def needed (name : String) (type : ColumnType) : Column := { name, type }

/-- A column that may be empty. -/
def optional (name : String) (type : ColumnType) : Column := { name, type, nullable := true }

/-- The columns that tell when a row was written, which every table ends with. -/
def audited (columns : List Column) : List Column :=
  columns ++ [needed "created_at" .moment, needed "updated_at" .moment]

/-- A reference to rows that take the referring rows with them. -/
def belongsTo (column table : String) : ForeignKey :=
  { columns := [column], table, targets := ["id"], onDelete := "CASCADE" }

/-- A table known by its identifiers, with indexes given by name and columns. -/
def design (name : String) (columns : List Column) (references : List ForeignKey)
    (indexes : List (String × List String)) : TableDesign where
  table :=
    { name
      columns := audited (needed "id" .uid :: columns)
      primaryKey := ["id"]
      foreignKeys := references }
  indexes := indexes.map fun i => { name := i.1, table := name, columns := i.2 }

/-! ## The first revision -/

/-- The table of workflows. -/
def workflows : TableDesign := design "automation_workflows"
  [needed "name" (.shortText 255), optional "description" .longText,
    needed "entity_type" (.shortText 100), needed "status" (.shortText 50),
    needed "run_once" .flag, needed "run_order" .whole, needed "total_executions" .whole,
    optional "last_executed_at" .moment]
  [] [("ix_automation_workflows_entity_status", ["entity_type", "status"])]

/-- The table of triggers. -/
def triggers : TableDesign := design "automation_workflow_triggers"
  [needed "workflow_id" .uid, needed "trigger_type" (.shortText 50),
    optional "field" (.shortText 255), optional "from_value" (.shortText 255),
    optional "to_value" (.shortText 255), needed "conditions" .document,
    optional "date_field" (.shortText 255), optional "offset_days" .whole,
    optional "offset_direction" (.shortText 20)]
  [belongsTo "workflow_id" "automation_workflows"]
  [("ix_automation_workflow_triggers_workflow_type", ["workflow_id", "trigger_type"])]

/-- The table of actions. -/
def actions : TableDesign := design "automation_workflow_actions"
  [needed "workflow_id" .uid, needed "action_type" (.shortText 50), needed "position" .whole,
    needed "config" .document, optional "parent_action_id" .uid,
    optional "branch_type" (.shortText 10)]
  [belongsTo "workflow_id" "automation_workflows",
    belongsTo "parent_action_id" "automation_workflow_actions"]
  [("ix_automation_workflow_actions_workflow_position", ["workflow_id", "position"])]

/-- The table of executions. -/
def executions : TableDesign := design "automation_workflow_executions"
  [needed "workflow_id" .uid, needed "trigger_type" (.shortText 50),
    optional "triggered_by" (.shortText 255), needed "entity_type" (.shortText 100),
    needed "entity_id" (.shortText 255), needed "status" (.shortText 50),
    needed "actions_executed" .whole, needed "action_results" .document,
    optional "error_message" .longText, needed "started_at" .moment,
    optional "completed_at" .moment]
  [belongsTo "workflow_id" "automation_workflows"]
  [("ix_automation_executions_workflow_id", ["workflow_id"]),
    ("ix_automation_executions_entity", ["entity_type", "entity_id"]),
    ("ix_automation_executions_status", ["status"])]

/-- The table of assignment rules. -/
def assignmentRules : TableDesign := design "automation_assignment_rules"
  [needed "name" (.shortText 255), optional "description" .longText,
    needed "entity_type" (.shortText 100), needed "is_active" .flag, needed "priority" .whole,
    needed "method" (.shortText 50), optional "assign_to_user_id" (.shortText 255),
    optional "team_id" (.shortText 255), needed "user_ids" .document,
    optional "territory_field" (.shortText 255), needed "territory_map" .document,
    needed "conditions" .document, needed "last_assigned_index" .whole]
  [] [("ix_automation_assignment_rules_entity_active", ["entity_type", "is_active"])]

/-- The table of webhook deliveries. -/
def deliveries : TableDesign := design "automation_webhook_deliveries"
  [needed "action_id" .uid, optional "workflow_id" .uid, optional "execution_id" .uid,
    needed "url" .longText, needed "method" (.shortText 10), needed "status" (.shortText 50),
    needed "attempts" .whole, optional "response_status" .whole, optional "error" .longText,
    optional "completed_at" .moment]
  [] [("ix_automation_webhook_deliveries_status", ["status"])]

/-- The first revision: all tables of the store. -/
def initial : Revision where
  name := "001_initial_automation"
  tables := [workflows, triggers, actions, executions, assignmentRules, deliveries]

end Revision
end RecordFlow.Schema
