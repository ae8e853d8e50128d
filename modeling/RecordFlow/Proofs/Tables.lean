/-
# Tables — the records of a store as rows

A record that fits the columns becomes one row or several, and is read from
them as it was.  What a row does not hold is how far the clock was ahead by
which a time was taken, and in what order the actions of a workflow were
given; they are read by position.
-/
import RecordFlow.Proofs.Ledger
import RecordFlow.Proofs.ReadBack
import RecordFlow.Store.Relational

namespace RecordFlow

/-! ## Numbers and times -/

namespace Column

/-- An amount stands in a column as it is. -/
def Keeps (a : Amount) : Prop := amount a = .ok a

theorem whole_eq_ok {n : Int} : whole n = .ok n ↔ least ≤ n ∧ n ≤ greatest := by
  unfold whole
  split <;> simp_all

theorem keeps_whole {n : Int} : Keeps (.whole n) ↔ least ≤ n ∧ n ≤ greatest := by
  rw [← whole_eq_ok, Keeps, amount]
  cases h : whole n with
  | ok m => simp [Functor.map, Except.map]
  | error f => simp [Functor.map, Except.map]

theorem Keeps.isPlaced {a : Amount} (keeps : Keeps a) : a.isPlaced = true := by
  match a, keeps with
  | .whole n, _ => rfl
  | .real .nan, keeps => cases keeps
  | .real (.infinite _), _ | .real (.finite _ _), _ => rfl

theorem checkBounds_of_keeps {as : List Amount} (keeps : ∀ a ∈ as, Keeps a) :
    checkBounds as = .ok () := by
  induction as with
  | nil => rfl
  | cons a as ih =>
      have rest := ih fun b h => keeps b (List.mem_cons_of_mem _ h)
      have head := keeps a List.mem_cons_self
      cases a with
      | whole n =>
          change (fun _ => ()) <$> whole n >>= (fun _ => checkBounds as) = .ok ()
          rw [whole_eq_ok.mpr (keeps_whole.mp head)]
          exact rest
      | real x => exact rest

end Column

/-- A clock shows universal time, as far as is known. -/
def Instant.IsUniversal (t : Instant) : Prop := t.ahead.getD 0 = 0

theorem Instant.universal_unzoned {t : Instant} (h : t.IsUniversal) :
    t.unzoned.universal = t.universal := by
  rw [IsUniversal] at h
  simp [universal, unzoned, h]

/-! ## Workflows -/

/-- A trigger that a row holds as it is. -/
structure Trigger.Fits (t : Trigger) : Prop where
  kind : t.kind.IsKnown
  conditions : ∀ c ∈ t.conditions, c.Fits
  offsetDays : Column.amount? t.offsetDays = .ok t.offsetDays

/-- An action that a row holds as it is: its configuration is a record in JSON. -/
structure Action.Fits (a : Action) : Prop where
  kind : a.kind.IsRead
  position : Column.Keeps a.position
  config : a.config.IsJson
  fields : a.config.fields?.isSome
  branch : ∀ b ∈ a.branch, b.IsKnown

/-- A workflow that rows hold as it is. -/
structure Workflow.Fits (w : Workflow) : Prop where
  status : w.status.IsKnown
  runOrder : Column.Keeps w.runOrder
  totalExecutions : Column.Keeps w.totalExecutions
  lastExecutedAt : ∀ t ∈ w.lastExecutedAt, t.IsUniversal
  triggers : ∀ t ∈ w.triggers, t.Fits
  actions : ∀ a ∈ w.actions, a.Fits

/-- The row of a trigger. -/
def Trigger.row (workflowId : Uid) (t : Trigger) : TriggerRow where
  workflowId
  kind := .ofOpen t.kind
  field := t.field
  fromValue := t.fromValue
  toValue := t.toValue
  conditions := Condition.listToValue t.conditions
  dateField := t.dateField
  offsetDays := t.offsetDays
  offsetDirection := t.offsetDirection

/-- The fields of an action's configuration. -/
def Action.fields (a : Action) : Fields := a.config.fields?.getD []

/-- The row of an action. -/
def Action.row (workflowId : Uid) (a : Action) : ActionRow where
  id := a.id
  workflowId
  kind := a.kind.text
  position := a.position
  config := a.fields
  parentId := a.parentId
  branch := a.branch.map .ofOpen

/-- The row of a workflow. -/
def Workflow.row (w : Workflow) : WorkflowRow where
  id := w.id
  name := w.name
  description := w.description
  entityType := w.entityType
  status := .ofOpen w.status
  runOnce := w.runOnce
  runOrder := w.runOrder
  totalExecutions := w.totalExecutions
  lastExecutedAt := w.lastExecutedAt.map Instant.unzoned

/-- The rows of a workflow's triggers. -/
def Workflow.triggerRows (w : Workflow) : List TriggerRow := w.triggers.map (Trigger.row w.id)

/-- The rows of a workflow's actions. -/
def Workflow.actionRows (w : Workflow) : List ActionRow := w.actions.map (Action.row w.id)

@[simp] theorem Workflow.row_id (w : Workflow) : w.row.id = w.id := rfl

@[simp] theorem Workflow.ids_actionRows (w : Workflow) :
    w.actionRows.map ActionRow.id = w.actions.map Action.id := by
  rw [actionRows, List.map_map]
  rfl

/-- A workflow as it is read from its rows. -/
def Workflow.fromRows (w : Workflow) : Workflow :=
  { w with
    actions := w.orderedActions
    lastExecutedAt := w.lastExecutedAt.map Instant.unzoned }

section Write

variable {workflowId : Uid}

theorem Action.config_eq {a : Action} (fits : a.Fits) : a.config = .record a.fields := by
  have some := fits.fields
  rw [Action.fields]
  cases h : a.config <;> simp_all [Value.fields?]

theorem WorkflowRow.ofWorkflow_of_fits {w : Workflow} (fits : w.Fits) :
    ofWorkflow w = .ok w.row := by
  have bounds : Column.checkBounds [w.runOrder, w.totalExecutions] = .ok () :=
    Column.checkBounds_of_keeps (by simpa using ⟨fits.runOrder, fits.totalExecutions⟩)
  rw [ofWorkflow, bounds, fits.runOrder, fits.totalExecutions]
  rfl

theorem TriggerRow.ofTrigger_of_fits {t : Trigger} (fits : t.Fits) :
    ofTrigger workflowId t (Condition.listToValue t.conditions) = .ok (t.row workflowId) := by
  rw [ofTrigger, fits.offsetDays]
  rfl

theorem ActionRow.ofAction_of_fits {a : Action} (fits : a.Fits) :
    ofAction workflowId a a.fields = .ok (a.row workflowId) := by
  rw [ofAction, fits.position]
  rfl

theorem insertRow_of_new {κ ρ : Type} [DecidableEq κ] {key : ρ → κ} {rows : List ρ} {row : ρ}
    (new : key row ∉ rows.map key) :
    RelationalStore.insertRow key rows row = .ok (rows ++ [row]) := by
  have absent : Keyed.find? key (key row) rows = none := by
    refine List.find?_eq_none.mpr fun y hy same => new ?_
    exact of_decide_eq_true same ▸ List.mem_map_of_mem hy
  simp [RelationalStore.insertRow, absent]

/-- Rows under new keys are inserted one after the other. -/
theorem insertRows_of_new {κ ρ α : Type} [DecidableEq κ] {key : ρ → κ}
    {write : α → Except Failure ρ} {row : α → ρ} {rows : List ρ} {xs : List α}
    (written : ∀ x ∈ xs, write x = .ok (row x)) (once : ((rows ++ xs.map row).map key).Nodup) :
    xs.foldlM (fun rows x => do RelationalStore.insertRow key rows (← write x)) rows
      = .ok (rows ++ xs.map row) := by
  induction xs generalizing rows with
  | nil => simp [pure, Except.pure]
  | cons x xs ih =>
      have new : key (row x) ∉ rows.map key := by
        rw [List.map_append, List.nodup_append] at once
        exact fun h => once.2.2 _ h (key (row x)) (by simp) rfl
      have rest := @ih (rows ++ [row x]) (fun y h => written y (List.mem_cons_of_mem _ h))
        (by simpa using once)
      rw [List.foldlM_cons, written x List.mem_cons_self]
      simp only [bind, Except.bind, insertRow_of_new new] at rest ⊢
      simpa using rest

end Write

namespace RelationalStore

section Insert

variable {α : Type} {s t : RelationalStore} {a : α}

/-- An insertion that succeeds, and whose rows can be read. -/
theorem inserting_ok {read : RelationalStore → Except Failure α} (readable : read t = .ok a) :
    s.inserting (.ok t) read = (.ok (), t) := by
  simp [inserting, readable, Functor.map, Except.map]

theorem addWorkflow_ok {w : Workflow} {v : Option Workflow} (inserted : s.insertWorkflow w = .ok t)
    (readable : t.getWorkflow w.id = .ok v) : s.addWorkflow w = (.ok (), t) := by
  rw [addWorkflow, inserted]
  exact inserting_ok readable

theorem addRule_ok {r : AssignmentRule} {q : Option AssignmentRule}
    (inserted : s.insertRule r = .ok t) (readable : t.getRule r.id = .ok q) :
    s.addRule r = (.ok (), t) := by
  rw [addRule, inserted]
  exact inserting_ok readable

theorem addExecution_ok {e : Execution} {d : Option Execution}
    (inserted : s.insertExecution e = .ok t) (readable : t.getExecution e.id = .ok d) :
    s.addExecution e = (.ok (), t) := by
  rw [addExecution, inserted]
  exact inserting_ok readable

end Insert

theorem zip_map_self {α β : Type} (f : α → β) (xs : List α) :
    xs.zip (xs.map f) = xs.map fun x => (x, f x) := by
  simpa using List.zip_map' (f := id) (g := f) (l := xs)

/-- A workflow that fits is inserted, provided that its identifier and those of its actions are
new. -/
theorem insertWorkflow_of_fits {s : RelationalStore} {w : Workflow} (fits : w.Fits)
    (new : w.id ∉ s.workflows.map WorkflowRow.id)
    (apart : ((s.actions ++ w.actionRows).map ActionRow.id).Nodup) :
    s.insertWorkflow w = .ok { s with
      workflows := s.workflows ++ [w.row]
      actions := s.actions ++ w.actionRows
      triggers := s.triggers ++ w.triggerRows } := by
  have configs : w.actions.mapM (·.config.asPairs)
      = .ok (w.actions.map fun a => a.fields.map fun f => (.text f.1, f.2)) := by
    refine mapM_of_ok fun a h => ?_
    rw [Action.config_eq (fits.actions a h)]
    rfl
  have documents : (w.actions.map fun a => a.fields.map fun f => (Value.text f.1, f.2)).mapM
      (Value.documentPairs []) = .ok (w.actions.map Action.fields) := by
    refine mapM_map_of_ok fun a h => ?_
    have fits := fits.actions a h
    exact Value.documentPairs_nil (Action.config_eq fits ▸ fits.config)
  have workflow : insertRow WorkflowRow.id s.workflows w.row = .ok (s.workflows ++ [w.row]) :=
    insertRow_of_new new
  have actions : w.actions.foldlM (fun rows a => do
      insertRow ActionRow.id rows (← ActionRow.ofAction w.id a a.fields)) s.actions
        = .ok (s.actions ++ w.actionRows) :=
    insertRows_of_new (fun a h => ActionRow.ofAction_of_fits (fits.actions a h)) apart
  have conditions : w.triggers.mapM (fun t => Condition.toDocument t.conditions)
      = .ok (w.triggers.map fun t => Condition.listToValue t.conditions) :=
    mapM_of_ok fun t h => Condition.toDocument_of_fits (fits.triggers t h).conditions
  have triggers : (w.triggers.map fun t => (t, Condition.listToValue t.conditions)).mapM
      (fun x => TriggerRow.ofTrigger w.id x.1 x.2) = .ok w.triggerRows :=
    mapM_map_of_ok fun t h => TriggerRow.ofTrigger_of_fits (fits.triggers t h)
  rw [insertWorkflow, configs, WorkflowRow.ofWorkflow_of_fits fits]
  simp only [bind, Except.bind] at actions
  simp only [bind, Except.bind, workflow, documents, conditions, zip_map_self, triggers,
    List.foldlM_map, actions]
  rfl

end RelationalStore

/-! ### Reading workflows -/

/-- What is put in order may be rewritten before or after. -/
theorem Amount.inOrder_map {α β : Type} {f : α → β} {amount : β → Amount} {xs : List α}
    (placed : ∀ x ∈ xs, (amount (f x)).isPlaced = true) :
    Amount.inOrder amount (xs.map f) = (Amount.inOrder (fun x => amount (f x)) xs).map f := by
  rw [Amount.inOrder, Amount.inOrder, if_pos (by simpa using placed),
    if_pos (by simpa using placed)]
  exact (List.map_mergeSort (f := f) (r := fun a b => !(amount (f b)).lt (amount (f a)))
    (s := fun a b => !(amount b).lt (amount a)) fun a _ b _ => rfl).symm

/-- Of rows that belong to several records, those of one. -/
theorem filter_rows {κ α ρ : Type} [DecidableEq κ] {key : α → κ} {rows : α → List ρ}
    {owner : ρ → κ} (owned : ∀ a, ∀ x ∈ rows a, owner x = key a) {xs : List α}
    (once : (xs.map key).Nodup) {a : α} (ha : a ∈ xs) :
    (xs.flatMap rows).filter (fun x => decide (owner x = key a)) = rows a := by
  induction xs with
  | nil => cases ha
  | cons b xs ih =>
      obtain ⟨absent, once⟩ := List.nodup_cons.mp once
      rw [List.flatMap_cons, List.filter_append]
      rcases List.mem_cons.mp ha with rfl | ha
      · have own : (rows a).filter (fun x => decide (owner x = key a)) = rows a :=
          List.filter_eq_self.mpr fun x hx => by simpa using owned a x hx
        have others : (xs.flatMap rows).filter (fun x => decide (owner x = key a)) = [] := by
          refine List.filter_eq_nil_iff.mpr fun x hx same => absent ?_
          obtain ⟨c, hc, hx⟩ := List.mem_flatMap.mp hx
          have same := of_decide_eq_true same
          exact same ▸ owned c x hx ▸ List.mem_map_of_mem hc
        rw [own, others, List.append_nil]
      · have others : (rows b).filter (fun x => decide (owner x = key a)) = [] := by
          refine List.filter_eq_nil_iff.mpr fun x hx same => absent ?_
          have same := of_decide_eq_true same
          exact owned b x hx ▸ same ▸ List.mem_map_of_mem ha
        rw [others, List.nil_append, ih once ha]

section Read

variable {workflowId : Uid}

theorem TriggerRow.toTrigger_row {t : Trigger} (fits : t.Fits) :
    (t.row workflowId).toTrigger = .ok t := by
  rw [toTrigger, Trigger.row, ColumnWord.readOpen_ofOpen fits.kind,
    Condition.ofDocument_listToValue fits.conditions]
  rfl

theorem ActionRow.toAction_row {a : Action} (fits : a.Fits) :
    (a.row workflowId).toAction = .ok a := by
  have branch : (a.branch.map ColumnWord.ofOpen).mapM ColumnWord.readOpen = .ok a.branch := by
    cases h : a.branch with
    | none => rfl
    | some b => exact mapM_some_of_ok (ColumnWord.readOpen_ofOpen (fits.branch b h))
  have kind := fits.kind
  have config := Action.config_eq fits
  rw [Open.IsRead] at kind
  simp only [toAction, Action.row, branch, kind, ← config]
  rfl

namespace RelationalStore

/-- A workflow is read from its rows as it was, with its actions in order. -/
theorem assemble_row {s : RelationalStore} {w : Workflow} (fits : w.Fits)
    (triggers : s.triggers.filter (·.workflowId = w.id) = w.triggerRows)
    (actions : s.actions.filter (·.workflowId = w.id) = w.actionRows) :
    s.assemble w.row = .ok w.fromRows := by
  have readTriggers : s.triggersOf w.id = .ok w.triggers := by
    have words : ∃ kinds, (TriggerRow.byWord w.triggerRows).mapM (·.kind.read) = .ok kinds := by
      refine exists_mapM_ok fun r h => ?_
      obtain ⟨t, ht, rfl⟩ := List.mem_map.mp (List.mem_mergeSort.mp h)
      obtain ⟨a, ha⟩ := (fits.triggers t ht).kind
      exact ⟨a, by rw [Trigger.row, ha, ColumnWord.read_ofOpen]⟩
    obtain ⟨kinds, words⟩ := words
    have read : w.triggerRows.mapM TriggerRow.toTrigger = .ok w.triggers :=
      mapM_read_back fun t h => TriggerRow.toTrigger_row (fits.triggers t h)
    rw [triggersOf, triggers]
    simp only [bind, Except.bind, words]
    exact read
  have readActions : s.actionsOf w.id = .ok w.orderedActions := by
    have order : ActionRow.byPosition w.actionRows
        = w.orderedActions.map (Action.row w.id) :=
      Amount.inOrder_map fun a h => (fits.actions a h).position.isPlaced
    rw [actionsOf, actions, order]
    exact mapM_read_back fun a h =>
      ActionRow.toAction_row (fits.actions a (Amount.mem_inOrder h))
  rw [assemble, Workflow.row, ColumnWord.readOpen_ofOpen fits.status]
  simp only [bind, Except.bind, readTriggers, readActions]
  rfl

end RelationalStore
end Read

/-! ## Rules -/

/-- A rule that a row holds as it is. -/
structure AssignmentRule.Fits (r : AssignmentRule) : Prop where
  method : r.method.IsKnown
  priority : Column.Keeps r.priority
  conditions : ∀ c ∈ r.conditions, c.Fits
  cursor : 0 ≤ r.cursor ∧ r.cursor ≤ Column.greatest

/-- The row of a rule. -/
def AssignmentRule.row (r : AssignmentRule) : RuleRow where
  id := r.id
  name := r.name
  description := r.description
  entityType := r.entityType
  isActive := r.isActive
  priority := r.priority
  method := .ofOpen r.method
  assignToUserId := r.assignToUserId
  teamId := r.teamId
  userIds := r.userIds
  territoryField := r.territoryField
  territoryMap := r.territoryMap
  conditions := Condition.listToValue r.conditions
  cursor := r.cursor

@[simp] theorem AssignmentRule.row_id (r : AssignmentRule) : r.row.id = r.id := rfl

namespace RuleRow

variable {r : AssignmentRule}

theorem ofRule_of_fits (fits : r.Fits) : ofRule r = .ok r.row := by
  have cursor : Column.Keeps (.whole r.cursor) :=
    Column.keeps_whole.mpr ⟨Int.le_trans (by decide) fits.cursor.1, fits.cursor.2⟩
  have bounds : Column.checkBounds [r.priority, .whole r.cursor] = .ok () :=
    Column.checkBounds_of_keeps (by simpa using ⟨fits.priority, cursor⟩)
  rw [ofRule, Condition.toDocument_of_fits fits.conditions, bounds, fits.priority]
  rfl

/-- A rule is read from its row. -/
theorem toRule_row (fits : r.Fits) : r.row.toRule = .ok r := by
  rw [toRule, AssignmentRule.row, ColumnWord.readOpen_ofOpen fits.method,
    Condition.ofDocument_listToValue fits.conditions]
  rfl

end RuleRow

/-! ## Executions -/

/-- An execution that a row holds as it is. -/
structure Execution.Fits (e : Execution) : Prop where
  trigger : e.trigger.IsKnown
  status : e.status.IsKnown
  actionsExecuted : Column.least ≤ e.actionsExecuted ∧ e.actionsExecuted ≤ Column.greatest
  outcomes : ∀ o ∈ e.outcomes, o.Fits
  startedAt : e.startedAt.IsUniversal
  completedAt : ∀ t ∈ e.completedAt, t.IsUniversal

/-- The row of an execution, with outcomes that may differ from its own in what does not count
for equality. -/
def Execution.row (e : Execution) (outcomes : List ActionOutcome) : ExecutionRow where
  id := e.id
  workflowId := e.workflowId
  trigger := .ofOpen e.trigger
  triggeredBy := e.triggeredBy
  entityType := e.entityType
  entityId := e.entityId
  status := .ofOpen e.status
  actionsExecuted := e.actionsExecuted
  outcomes := ExecutionRow.outcomesValue outcomes
  errorMessage := e.errorMessage
  startedAt := e.startedAt.unzoned
  completedAt := e.completedAt.map Instant.unzoned

@[simp] theorem Execution.row_id (e : Execution) (os : List ActionOutcome) :
    (e.row os).id = e.id := rfl

/-- An execution as it is read from its row. -/
def Execution.fromRow (e : Execution) (outcomes : List ActionOutcome) : Execution :=
  { e with
    outcomes
    startedAt := e.startedAt.unzoned
    completedAt := e.completedAt.map Instant.unzoned }

/-- Outcomes are the same: as they are, or as equal values. -/
def ActionOutcome.Alike (os os' : List ActionOutcome) : Prop :=
  os' = os ∨ Value.equal (ExecutionRow.outcomesValue os) (ExecutionRow.outcomesValue os') = .ok true

/-- An execution is of the same run as another: only what the end of a run writes differs. -/
def Execution.SameRun (c e : Execution) : Prop :=
  e = { c with
    status := e.status
    actionsExecuted := e.actionsExecuted
    outcomes := e.outcomes
    errorMessage := e.errorMessage
    completedAt := e.completedAt }

namespace ExecutionRow

variable {e c : Execution} {os : List ActionOutcome}

theorem ofExecution_of_fits (fits : e.Fits) (noError : e.errorMessage = none)
    (noEnd : e.completedAt = none) : ofExecution e = .ok (e.row e.outcomes) := by
  rw [ofExecution, Value.document_of_json (json_outcomesValue fits.outcomes),
    Column.whole_eq_ok.mpr fits.actionsExecuted, Execution.row, noError, noEnd]
  rfl

/-- An execution is read from its row. -/
theorem toExecution_row (fits : e.Fits) (fit : ∀ o ∈ os, o.Fits) :
    (e.row os).toExecution = .ok (e.fromRow os) := by
  rw [toExecution, Execution.row, ColumnWord.readOpen_ofOpen fits.trigger,
    ColumnWord.readOpen_ofOpen fits.status, readOutcomes_outcomesValue fit]
  rfl

/-- The end of a run is written to its row; equal outcomes are left as they are. -/
theorem finish_row (fits : e.Fits) (sameRun : c.SameRun e) (fit : ∀ o ∈ os, o.Fits) :
    ∃ os', (∀ o ∈ os', o.Fits) ∧ ActionOutcome.Alike e.outcomes os' ∧
      (c.row os).finish e = .ok (e.row os') := by
  have json := json_outcomesValue fits.outcomes
  have written : ∀ os', replaceOutcomes (outcomesValue os) e.outcomes = .ok (outcomesValue os') →
      (c.row os).finish e = .ok (e.row os') := by
    intro os' h
    rw [finish]
    simp only [Execution.row, h, Column.whole_eq_ok.mpr fits.actionsExecuted]
    rw [sameRun]
    rfl
  obtain ⟨same, compared⟩ := Value.exists_equal json (json_outcomesValue fit)
  cases same with
  | true =>
      refine ⟨os, fit, .inr compared, written os ?_⟩
      rw [replaceOutcomes, compared]
  | false =>
      refine ⟨e.outcomes, fits.outcomes, .inl rfl, written _ ?_⟩
      rw [replaceOutcomes, compared]
      exact Value.document_of_json json

end ExecutionRow
end RecordFlow
