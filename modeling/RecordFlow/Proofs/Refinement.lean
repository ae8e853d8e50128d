/-
# Refinement — tables answer as the memory does

The two kinds of store are filled and asked by the same calls, records being
given by value.  The tables are at every moment the rows of what the memory
holds: a workflow is one row with the rows of its triggers and actions, an
execution is one row in which outcomes may stand that are equal to its own.
From this every call is answered alike, and leaves the stores so again.  What
the tables do not keep is how far a clock was ahead, so times are compared as
points in time.
-/
import Mathlib.Data.List.Forall2
import RecordFlow.Proofs.Cursors
import RecordFlow.Proofs.Tables

namespace RecordFlow

/-! ## Calls and replies -/

namespace Store

/-- A call of a store.  The first two fill it. -/
inductive Call where
  | addWorkflow (w : Workflow)
  | addRule (r : AssignmentRule)
  | listActive (entityType : String) (kind : TriggerKind)
  | getWorkflow (id : Uid)
  | hasCompleted (workflowId : Uid) (entityType entityId : String)
  | createExecution (e : Execution)
  | finishExecution (e : Execution)
  | getExecution (id : RecordId)
  | listExecutions (workflowId : Uid)
  | listEntityExecutions (entityType entityId : String)
  | recordRun (id : Uid) (time : Instant)
  | getRule (id : Uid)
  | advanceRotation (id : Uid) (size : Int)

/-- What a call replies. -/
inductive Reply where
  | done
  | flag (b : Bool)
  | workflows (ws : List Workflow)
  | workflow (w : Option Workflow)
  | executions (es : List Execution)
  | execution (e : Option Execution)
  | rule (r : Option AssignmentRule)
  | place (p : Option Int)

/-- Makes a call. -/
def perform (s : Store) : Call → Except Failure Reply × Store
  | .addWorkflow w => ((fun _ => .done) <$> (s.addWorkflow (copy w)).1, (s.addWorkflow (copy w)).2)
  | .addRule r => ((fun _ => .done) <$> (s.addRule (copy r)).1, (s.addRule (copy r)).2)
  | .listActive entityType kind =>
    ((fun ws => .workflows (ws.map Filed.record)) <$> s.listActive entityType (.known kind), s)
  | .getWorkflow id => ((fun w => .workflow (w.map Filed.record)) <$> s.getWorkflow id, s)
  | .hasCompleted workflowId entityType entityId =>
    (.ok (.flag (s.hasCompleted workflowId entityType entityId)), s)
  | .createExecution e =>
    ((fun _ => .execution (some e)) <$> (s.createExecution e).1, (s.createExecution e).2)
  | .finishExecution e =>
    ((fun _ => .execution (some e)) <$> (s.finishExecution e).1, (s.finishExecution e).2)
  | .getExecution id => (.execution <$> s.getExecution id, s)
  | .listExecutions workflowId => (.executions <$> s.listExecutions workflowId, s)
  | .listEntityExecutions entityType entityId =>
    (.executions <$> s.listEntityExecutions entityType entityId, s)
  | .recordRun id time => (.ok .done, s.recordRun id time)
  | .getRule id => ((fun r => .rule (r.map Filed.record)) <$> s.getRule id, s)
  | .advanceRotation id size =>
    match s.advanceRotation id size with
    | .ok (place, t) => (.ok (.place place), t)
    | .error f => (.error f, s)

/-- The replies to calls made one after the other. -/
def replies (s : Store) : List Call → List (Except Failure Reply)
  | [] => []
  | c :: cs => (s.perform c).1 :: replies (s.perform c).2 cs

end Store

/-! ## Being the same -/

/-- A workflow is the same as one that was read from rows: its actions are in order there. -/
structure Workflow.Same (w v : Workflow) : Prop where
  record : v = { w with actions := v.actions, lastExecutedAt := v.lastExecutedAt }
  actions : v.actions = w.orderedActions
  lastExecutedAt : v.lastExecutedAt.map Instant.universal = w.lastExecutedAt.map Instant.universal

/-- An execution is the same as one that was read from a row: the times are the same points in
time, and the outcomes are the same or equal as values. -/
structure Execution.Same (e d : Execution) : Prop where
  record : d = { e with
    outcomes := d.outcomes, startedAt := d.startedAt, completedAt := d.completedAt }
  outcomes : ActionOutcome.Alike e.outcomes d.outcomes
  startedAt : d.startedAt.universal = e.startedAt.universal
  completedAt : d.completedAt.map Instant.universal = e.completedAt.map Instant.universal

namespace Store

/-- Two replies are the same. -/
inductive Reply.Same : Reply → Reply → Prop where
  | done : Same .done .done
  | flag (b : Bool) : Same (.flag b) (.flag b)
  | workflows {ws vs : List Workflow} (each : List.Forall₂ Workflow.Same ws vs) :
      Same (.workflows ws) (.workflows vs)
  | workflow {w v : Option Workflow} (same : Option.Rel Workflow.Same w v) :
      Same (.workflow w) (.workflow v)
  | executions {es ds : List Execution} (each : List.Forall₂ Execution.Same es ds) :
      Same (.executions es) (.executions ds)
  | execution {e d : Option Execution} (same : Option.Rel Execution.Same e d) :
      Same (.execution e) (.execution d)
  | rule (r : Option AssignmentRule) : Same (.rule r) (.rule r)
  | place (p : Option Int) : Same (.place p) (.place p)

/-- Both calls reply, and the replies are the same. -/
def AnsweredAlike (x y : Except Failure Reply) : Prop :=
  ∃ a b, x = .ok a ∧ y = .ok b ∧ a.Same b

end Store

/-! ## Admitted calls -/

/-- A point in time is not after another, as far as the two have an order. -/
def Instant.NotAfter (t u : Instant) : Prop := t.isZoned = u.isZoned ∧ t.universal ≤ u.universal

/-- An execution begins: it is running, without an error and an end. -/
structure Execution.Begins (e : Execution) : Prop where
  status : e.status = .known .running
  errorMessage : e.errorMessage = none
  completedAt : e.completedAt = none

namespace Store

/-- A call is one that the stores are made for.  Identifiers of what is added are new, what is
added fits the columns, and executions begin one after the other; the end of an execution is
that of one that was created; a pool is not empty.  The bounds are those of the columns: the
number of a workflow's runs and the cursor of a rule are below the greatest whole number
before they are moved on. -/
def Call.IsFor (m : MemoryStore) : Call → Prop
  | addWorkflow w =>
    w.Fits ∧ w.id ∉ m.workflows.map MemoryStore.workflowKey ∧
      ((m.workflows.flatMap fun v => v.record.actions.map Action.id)
        ++ w.actions.map Action.id).Nodup
  | addRule r => r.Fits ∧ r.id ∉ m.rules.map MemoryStore.ruleKey
  | createExecution e =>
    e.Fits ∧ e.Begins ∧ e.id ∉ m.executions.map Execution.id ∧
      ∀ c ∈ m.executions, c.startedAt.NotAfter e.startedAt
  | finishExecution e => e.Fits ∧ ∃ c, m.getExecution e.id = some c ∧ c.SameRun e
  | recordRun id time =>
    time.IsUniversal ∧ ∀ w, m.getWorkflow id = some w →
      ∃ n, w.record.totalExecutions = .whole n ∧ n < Column.greatest
  | advanceRotation id size =>
    0 < size ∧ size ≤ Column.greatest ∧
      ∀ r, m.getRule id = some r → r.record.cursor < Column.greatest
  | _ => True

/-- Each of the calls is made of a store in memory that it is for. -/
def Admits (s : Store) : List Call → Prop
  | [] => True
  | c :: cs => (∃ m, s = .memory m ∧ c.IsFor m) ∧ Admits (s.perform c).2 cs

end Store

/-! ## The tables of a memory -/

/-- An execution stands in a row. -/
def Execution.InRow (e : Execution) (row : ExecutionRow) : Prop :=
  e.Fits ∧ ∃ os, (∀ o ∈ os, o.Fits) ∧ ActionOutcome.Alike e.outcomes os ∧ row = e.row os

/-- The tables hold what the memory holds.  What is held fits, under identifiers that occur
once, and executions stand in the order of their starts. -/
structure Tabled (m : MemoryStore) (s : RelationalStore) : Prop where
  workflows : s.workflows = m.workflows.map fun w => w.record.row
  triggers : s.triggers = m.workflows.flatMap fun w => w.record.triggerRows
  actions : s.actions = m.workflows.flatMap fun w => w.record.actionRows
  rules : s.rules = m.rules.map fun r => r.record.row
  executions : List.Forall₂ Execution.InRow m.executions s.executions
  workflowsFit : ∀ w ∈ m.workflows, w.record.Fits
  workflowsOnce : (m.workflows.map MemoryStore.workflowKey).Nodup
  actionsOnce : (m.workflows.flatMap fun w => w.record.actions.map Action.id).Nodup
  rulesFit : ∀ r ∈ m.rules, r.record.Fits
  rulesOnce : (m.rules.map MemoryStore.ruleKey).Nodup
  executionsOnce : (m.executions.map Execution.id).Nodup
  rising : (m.executions.map Execution.startedAt).Pairwise Instant.NotAfter

/-- Two stores reply alike, and go on as a memory and its tables. -/
def RepliesAlike (x y : Except Failure Store.Reply × Store) : Prop :=
  Store.AnsweredAlike x.1 y.1 ∧
    ∃ m s, x.2 = .memory m ∧ y.2 = .relational s ∧ Tabled m s

namespace Tabled

theorem empty : Tabled {} {} where
  workflows := rfl
  triggers := rfl
  actions := rfl
  rules := rfl
  executions := .nil
  workflowsFit := by simp
  workflowsOnce := List.nodup_nil
  actionsOnce := List.nodup_nil
  rulesFit := by simp
  rulesOnce := List.nodup_nil
  executionsOnce := List.nodup_nil
  rising := .nil

variable {m : MemoryStore} {s : RelationalStore}

/-- A reply that leaves the stores as they are. -/
theorem replied (h : Tabled m s) {x y : Except Failure Store.Reply}
    (alike : Store.AnsweredAlike x y) : RepliesAlike (x, .memory m) (y, .relational s) :=
  ⟨alike, m, s, rfl, rfl, h⟩

/-! ### Workflows -/

theorem triggersOf (h : Tabled m s) {w : Filed Workflow} (there : w ∈ m.workflows) :
    s.triggers.filter (·.workflowId = w.record.id) = w.record.triggerRows := by
  rw [h.triggers]
  refine filter_rows (fun v x hx => ?_) h.workflowsOnce there
  obtain ⟨t, _, rfl⟩ := List.mem_map.mp hx
  rfl

theorem actionsOf (h : Tabled m s) {w : Filed Workflow} (there : w ∈ m.workflows) :
    s.actions.filter (·.workflowId = w.record.id) = w.record.actionRows := by
  rw [h.actions]
  refine filter_rows (fun v x hx => ?_) h.workflowsOnce there
  obtain ⟨a, _, rfl⟩ := List.mem_map.mp hx
  rfl

theorem assemble (h : Tabled m s) {w : Filed Workflow} (there : w ∈ m.workflows) :
    s.assemble w.record.row = .ok w.record.fromRows :=
  RelationalStore.assemble_row (h.workflowsFit w there) (h.triggersOf there) (h.actionsOf there)

theorem same_fromRows {w : Workflow} (fits : w.Fits) : w.Same w.fromRows where
  record := rfl
  actions := rfl
  lastExecutedAt := by
    cases time : w.lastExecutedAt with
    | none => simp [Workflow.fromRows, time]
    | some t =>
        simp [Workflow.fromRows, time, Instant.universal_unzoned (fits.lastExecutedAt t time)]

theorem getWorkflow (h : Tabled m s) (id : Uid) :
    s.getWorkflow id = .ok ((m.getWorkflow id).map fun w => w.record.fromRows) := by
  have row : Keyed.find? WorkflowRow.id id (m.workflows.map fun w => w.record.row)
      = (Keyed.find? MemoryStore.workflowKey id m.workflows).map fun w => w.record.row :=
    Keyed.find?_map (fun _ => rfl) m.workflows
  rw [RelationalStore.getWorkflow, h.workflows, row, MemoryStore.getWorkflow]
  cases found : Keyed.find? MemoryStore.workflowKey id m.workflows with
  | none => rfl
  | some w =>
      exact mapM_some_of_ok (h.assemble (find?_mem found).1)

theorem replies_getWorkflow (h : Tabled m s) (id : Uid) :
    RepliesAlike ((Store.memory m).perform (.getWorkflow id))
      ((Store.relational s).perform (.getWorkflow id)) := by
  refine h.replied ⟨.workflow ((m.getWorkflow id).map fun w => w.record),
    .workflow ((m.getWorkflow id).map fun w => w.record.fromRows), rfl, ?_, .workflow ?_⟩
  · rw [Store.getWorkflow, h.getWorkflow]
    cases m.getWorkflow id <;> rfl
  · cases found : m.getWorkflow id with
    | none => exact .none
    | some w => exact .some (same_fromRows (h.workflowsFit w (find?_mem found).1))

theorem hasTriggerRow (h : Tabled m s) {w : Filed Workflow} (there : w ∈ m.workflows)
    (kind : TriggerKind) :
    s.hasTriggerRow w.record.id (.known kind) = w.record.hasTrigger (.known kind) := by
  rw [RelationalStore.hasTriggerRow, ← List.any_filter, h.triggersOf there,
    Workflow.triggerRows, List.any_map, Workflow.hasTrigger, Bool.eq_iff_iff]
  simp only [List.any_eq_true, Function.comp_apply, decide_eq_true_eq]
  refine exists_congr fun t => and_congr_right fun ht => ?_
  exact ColumnWord.ofOpen_eq_iff ((h.workflowsFit w there).triggers t ht).kind ⟨kind, rfl⟩

/-- A row is chosen for a change just as the workflow in it is. -/
theorem chosen_iff (h : Tabled m s) {w : Filed Workflow} (there : w ∈ m.workflows)
    (entityType : String) (kind : TriggerKind) :
    (w.record.row.entityType = entityType
        && w.record.row.status = .ofOpen (.known WorkflowStatus.active)
        && s.hasTriggerRow w.record.row.id (.known kind))
      = MemoryStore.isCandidate entityType (.known kind) w.record := by
  have triggered := h.hasTriggerRow there kind
  have active := ColumnWord.ofOpen_eq_iff (h.workflowsFit w there).status
    ⟨WorkflowStatus.active, rfl⟩
  rw [Bool.eq_iff_iff]
  simp only [MemoryStore.isCandidate, Workflow.isActive, Bool.and_eq_true, decide_eq_true_eq]
  refine and_congr ?_ (iff_of_eq (congrArg (· = true) triggered))
  exact ⟨fun ⟨kept, on⟩ => ⟨active.mp on, kept⟩, fun ⟨on, kept⟩ => ⟨kept, active.mpr on⟩⟩

theorem listActive (h : Tabled m s) (entityType : String) (kind : TriggerKind) :
    s.listActive entityType (.known kind)
      = .ok ((m.listActive entityType (.known kind)).map fun w => w.record.fromRows) := by
  have rows : s.workflows.filter (fun r => r.entityType = entityType
        && r.status = .ofOpen (.known .active) && s.hasTriggerRow r.id (.known kind))
      = (m.workflows.filter fun w => MemoryStore.isCandidate entityType (.known kind) w.record).map
        fun w => w.record.row := by
    rw [h.workflows, List.filter_map]
    exact congrArg _ (List.filter_congr fun w hw => h.chosen_iff hw entityType kind)
  have inside : ∀ w ∈ m.workflows.filter
      (fun w => MemoryStore.isCandidate entityType (.known kind) w.record), w ∈ m.workflows :=
    fun w hw => List.mem_of_mem_filter hw
  have order := @Amount.inOrder_map _ _ (fun w : Filed Workflow => w.record.row)
    WorkflowRow.runOrder _ fun w hw => (h.workflowsFit w (inside w hw)).runOrder.isPlaced
  rw [RelationalStore.listActive, rows, order]
  exact mapM_map_of_ok fun w hw => h.assemble (inside w (Amount.mem_inOrder hw))

theorem replies_listActive (h : Tabled m s) (entityType : String) (kind : TriggerKind) :
    RepliesAlike ((Store.memory m).perform (.listActive entityType kind))
      ((Store.relational s).perform (.listActive entityType kind)) := by
  refine h.replied ⟨.workflows ((m.listActive entityType (.known kind)).map fun w => w.record),
    .workflows ((m.listActive entityType (.known kind)).map fun w => w.record.fromRows),
    rfl, ?_, .workflows ?_⟩
  · rw [Store.listActive, h.listActive]
    simp [Functor.map, Except.map, Function.comp_def, Store.copy]
  · refine List.forall₂_map_left_iff.mpr (List.forall₂_map_right_iff.mpr
      (List.forall₂_same.mpr fun w hw => same_fromRows (h.workflowsFit w ?_)))
    exact List.mem_of_mem_filter (Amount.mem_inOrder hw)

/-! ### Filling the stores -/

theorem replies_addWorkflow (h : Tabled m s) {w : Workflow}
    (suits : (Store.Call.addWorkflow w).IsFor m) :
    RepliesAlike ((Store.memory m).perform (.addWorkflow w))
      ((Store.relational s).perform (.addWorkflow w)) := by
  obtain ⟨fits, new, apart⟩ := suits
  have added : m.addWorkflow (Store.copy w)
      = { m with workflows := m.workflows ++ [Store.copy w] } := by
    rw [MemoryStore.addWorkflow, put_of_fresh new]
  have inserted := RelationalStore.insertWorkflow_of_fits (s := s) fits
    (by simpa [h.workflows, MemoryStore.workflowKey] using new)
    (by simpa [h.actions, List.map_flatMap] using apart)
  have next : Tabled { m with workflows := m.workflows ++ [Store.copy w] } { s with
      workflows := s.workflows ++ [w.row]
      actions := s.actions ++ w.actionRows
      triggers := s.triggers ++ w.triggerRows } :=
    { h with
      workflows := by simp [h.workflows, Store.copy]
      triggers := by simp [h.triggers, Store.copy]
      actions := by simp [h.actions, Store.copy]
      workflowsFit := by
        intro v hv
        rcases List.mem_append.mp hv with hv | hv
        · exact h.workflowsFit v hv
        · rw [List.mem_singleton.mp hv]
          exact fits
      workflowsOnce := nodup_keys_append h.workflowsOnce new
      actionsOnce := by simpa [Store.copy] using apart }
  have table := RelationalStore.addWorkflow_ok inserted (next.getWorkflow w.id)
  refine ⟨⟨.done, .done, rfl, ?_, .done⟩, _, _, congrArg Store.memory added, ?_, next⟩
  · exact congrArg (fun x => (fun _ => Store.Reply.done) <$> x.1) table
  · exact congrArg (fun x => Store.relational x.2) table

theorem ruleRow (h : Tabled m s) (id : Uid) :
    Keyed.find? RuleRow.id id s.rules = (m.getRule id).map fun r => r.record.row := by
  rw [h.rules]
  exact Keyed.find?_map (fun _ => rfl) m.rules

theorem getRule (h : Tabled m s) (id : Uid) :
    s.getRule id = .ok ((m.getRule id).map Filed.record) := by
  rw [RelationalStore.getRule, h.ruleRow]
  cases found : m.getRule id with
  | none => rfl
  | some r =>
      exact mapM_some_of_ok (RuleRow.toRule_row (h.rulesFit r (find?_mem found).1))

theorem replies_addRule (h : Tabled m s) {r : AssignmentRule}
    (suits : (Store.Call.addRule r).IsFor m) :
    RepliesAlike ((Store.memory m).perform (.addRule r))
      ((Store.relational s).perform (.addRule r)) := by
  obtain ⟨fits, new⟩ := suits
  have added : m.addRule (Store.copy r) = { m with rules := m.rules ++ [Store.copy r] } := by
    rw [MemoryStore.addRule, put_of_fresh new]
  have inserted : s.insertRule r = .ok { s with rules := s.rules ++ [r.row] } := by
    have row : RelationalStore.insertRow RuleRow.id s.rules r.row = .ok (s.rules ++ [r.row]) :=
      insertRow_of_new (by simpa [h.rules, MemoryStore.ruleKey] using new)
    rw [RelationalStore.insertRule, RuleRow.ofRule_of_fits fits]
    simp only [bind, Except.bind, row]
    rfl
  have next : Tabled { m with rules := m.rules ++ [Store.copy r] }
      { s with rules := s.rules ++ [r.row] } :=
    { h with
      rules := by simp [h.rules, Store.copy]
      rulesFit := by
        intro q hq
        rcases List.mem_append.mp hq with hq | hq
        · exact h.rulesFit q hq
        · rw [List.mem_singleton.mp hq]
          exact fits
      rulesOnce := nodup_keys_append h.rulesOnce new }
  have table := RelationalStore.addRule_ok inserted (next.getRule r.id)
  refine ⟨⟨.done, .done, rfl, ?_, .done⟩, _, _, congrArg Store.memory added, ?_, next⟩
  · exact congrArg (fun x => (fun _ => Store.Reply.done) <$> x.1) table
  · exact congrArg (fun x => Store.relational x.2) table

/-! ### Counting runs and moving cursors -/

/-- A filed workflow after one more run. -/
def counted (time : Instant) (w : Filed Workflow) : Filed Workflow :=
  { w with record := w.record.recordRun time }

/-- The row of a workflow after one more run. -/
def countedRow (time : Instant) (r : WorkflowRow) : WorkflowRow :=
  { r with totalExecutions := Column.succ r.totalExecutions, lastExecutedAt := some time.unzoned }

theorem fits_recordRun {w : Workflow} {time : Instant} {n : Int} (fits : w.Fits)
    (whole : w.totalExecutions = .whole n) (below : n < Column.greatest)
    (universal : time.IsUniversal) : (w.recordRun time).Fits :=
  { fits with
    totalExecutions := by
      have range := Column.keeps_whole.mp (whole ▸ fits.totalExecutions)
      rw [Workflow.recordRun, whole]
      exact Column.keeps_whole.mpr ⟨by omega, by omega⟩
    lastExecutedAt := by
      intro t ht
      obtain rfl := Option.mem_some_iff.mp ht
      exact universal }

theorem row_recordRun {w : Workflow} {time : Instant} {n : Int}
    (whole : w.totalExecutions = .whole n) (below : n < Column.greatest) :
    (w.recordRun time).row = countedRow time w.row := by
  simp [countedRow, Workflow.row, Workflow.recordRun, whole, Amount.succ, Column.succ, below]

theorem replies_recordRun (h : Tabled m s) {id : Uid} {time : Instant}
    (suits : (Store.Call.recordRun id time).IsFor m) :
    RepliesAlike ((Store.memory m).perform (.recordRun id time))
      ((Store.relational s).perform (.recordRun id time)) := by
  obtain ⟨universal, countable⟩ := suits
  have countable : ∀ w ∈ m.workflows, MemoryStore.workflowKey w = id →
      ∃ n, w.record.totalExecutions = .whole n ∧ n < Column.greatest := by
    rintro w hw rfl
    exact countable w (find?_of_mem h.workflowsOnce hw)
  have rows : Keyed.modify WorkflowRow.id id (countedRow time) s.workflows
      = (Keyed.modify MemoryStore.workflowKey id (counted time) m.workflows).map
        fun w => w.record.row := by
    rw [h.workflows]
    refine (map_modify_of (fun _ => rfl) fun w hw here => ?_).symm
    obtain ⟨n, whole, below⟩ := countable w hw here
    exact row_recordRun whole below
  have kept {β : Type} (g : Filed Workflow → List β) (same : ∀ w, g (counted time w) = g w) :
      (Keyed.modify MemoryStore.workflowKey id (counted time) m.workflows).flatMap g
        = m.workflows.flatMap g := by
    rw [List.flatMap_def, List.flatMap_def, map_modify_kept fun w _ _ => same w]
  have keys : (Keyed.modify MemoryStore.workflowKey id (counted time) m.workflows).map
      MemoryStore.workflowKey = m.workflows.map MemoryStore.workflowKey :=
    map_modify_kept fun _ _ _ => rfl
  refine ⟨⟨.done, .done, rfl, rfl, .done⟩, _, _, rfl, rfl, { h with
    workflows := rows
    triggers := h.triggers.trans (kept _ fun _ => rfl).symm
    actions := h.actions.trans (kept _ fun _ => rfl).symm
    workflowsFit := forall_mem_modify h.workflowsFit fun w hw here => ?_
    workflowsOnce := (congrArg List.Nodup keys).mpr h.workflowsOnce
    actionsOnce := (congrArg List.Nodup (kept _ fun _ => rfl)).mpr h.actionsOnce }⟩
  obtain ⟨n, whole, below⟩ := countable w hw here
  exact fits_recordRun (h.workflowsFit w hw) whole below universal

theorem replies_getRule (h : Tabled m s) (id : Uid) :
    RepliesAlike ((Store.memory m).perform (.getRule id))
      ((Store.relational s).perform (.getRule id)) := by
  refine h.replied ⟨.rule ((m.getRule id).map Filed.record),
    .rule ((m.getRule id).map Filed.record), rfl, ?_, .rule _⟩
  rw [Store.getRule, h.getRule]
  cases m.getRule id <;> rfl

/-- The next place is the same by both ways of counting, where there is a next number. -/
theorem nextPlace_eq {cursor size : Int} (nonneg : 0 ≤ cursor) (below : cursor < Column.greatest)
    (positive : 0 < size) :
    RelationalStore.nextPlace cursor size = MemoryStore.nextPlace cursor size := by
  rw [RelationalStore.nextPlace, if_pos below, MemoryStore.nextPlace,
    Int.fmod_eq_tmod_of_nonneg (by omega) positive.le]

theorem place_range {size : Int} (cursor : Int) (positive : 0 < size)
    (countable : size ≤ Column.greatest) :
    0 ≤ MemoryStore.nextPlace cursor size ∧
      MemoryStore.nextPlace cursor size ≤ Column.greatest := by
  rw [MemoryStore.nextPlace, Int.fmod_eq_emod_of_nonneg _ positive.le]
  have least := Int.emod_nonneg (cursor + 1) positive.ne'
  have below := Int.emod_lt_of_pos (cursor + 1) positive
  exact ⟨least, by omega⟩

/-- A cursor that has been moved on in both stores. -/
theorem atPlace (h : Tabled m s) (id : Uid) {place : Int}
    (range : 0 ≤ place ∧ place ≤ Column.greatest) :
    Tabled { m with rules := Keyed.modify MemoryStore.ruleKey id (Filed.atPlace place) m.rules }
      { s with rules := Keyed.modify RuleRow.id id (RuleRow.atPlace place) s.rules } := by
  have keys : (Keyed.modify MemoryStore.ruleKey id (Filed.atPlace place) m.rules).map
      MemoryStore.ruleKey = m.rules.map MemoryStore.ruleKey :=
    map_modify_kept fun _ _ _ => rfl
  exact { h with
    rules := by
      rw [h.rules]
      refine (map_modify_of (fun _ => rfl) fun r _ _ => ?_).symm
      rfl
    rulesFit := forall_mem_modify h.rulesFit fun r hr _ =>
      { h.rulesFit r hr with cursor := range }
    rulesOnce := (congrArg List.Nodup keys).mpr h.rulesOnce }

theorem replies_advanceRotation (h : Tabled m s) {id : Uid} {size : Int}
    (suits : (Store.Call.advanceRotation id size).IsFor m) :
    RepliesAlike ((Store.memory m).perform (.advanceRotation id size))
      ((Store.relational s).perform (.advanceRotation id size)) := by
  obtain ⟨positive, countable, below⟩ := suits
  have row := h.ruleRow id
  cases found : m.getRule id with
  | none =>
      rw [found, Option.map_none] at row
      have memory : (Store.memory m).perform (.advanceRotation id size)
          = (.ok (.place none), .memory m) := by
        rw [Store.perform, Store.advanceRotation, MemoryStore.advanceRotation_absent found]
        rfl
      have table : (Store.relational s).perform (.advanceRotation id size)
          = (.ok (.place none), .relational s) := by
        rw [Store.perform, Store.advanceRotation,
          RelationalStore.advanceRotation_absent row positive.le countable]
        rfl
      rw [memory, table]
      exact h.replied ⟨_, _, rfl, rfl, .place _⟩
  | some r =>
      rw [found, Option.map_some] at row
      have fits := h.rulesFit r (find?_mem found).1
      have next : RelationalStore.nextPlace r.record.row.cursor size
          = MemoryStore.nextPlace r.record.cursor size :=
        nextPlace_eq fits.cursor.1 (below r found) positive
      have range := place_range r.record.cursor positive countable
      generalize reached : MemoryStore.nextPlace r.record.cursor size = place at next range
      have memory : (Store.memory m).perform (.advanceRotation id size)
          = (.ok (.place (some place)), .memory { m with
              rules := Keyed.modify MemoryStore.ruleKey id (Filed.atPlace place) m.rules }) := by
        rw [Store.perform, Store.advanceRotation, MemoryStore.advanceRotation_eq found positive,
          reached]
        rfl
      have table : (Store.relational s).perform (.advanceRotation id size)
          = (.ok (.place (some place)), .relational { s with
              rules := Keyed.modify RuleRow.id id (RuleRow.atPlace place) s.rules }) := by
        rw [Store.perform, Store.advanceRotation,
          RelationalStore.advanceRotation_eq row positive countable, next]
        rfl
      rw [memory, table]
      exact ⟨⟨_, _, rfl, rfl, .place _⟩, _, _, rfl, rfl, h.atPlace id range⟩

/-! ### Executions -/

section Rows

variable {es : List Execution} {rows : List ExecutionRow} {e : Execution} {row : ExecutionRow}

theorem ids_inRow (each : List.Forall₂ Execution.InRow es rows) :
    rows.map ExecutionRow.id = es.map Execution.id := by
  induction each with
  | nil => rfl
  | cons head _ ih =>
      obtain ⟨_, os, _, _, rfl⟩ := head
      rw [List.map_cons, List.map_cons, ih, Execution.row_id]

/-- An execution is read from its row as the same. -/
theorem read_inRow (inRow : e.InRow row) : ∃ d, row.toExecution = .ok d ∧ e.Same d := by
  obtain ⟨fits, os, fit, alike, rfl⟩ := inRow
  refine ⟨e.fromRow os, ExecutionRow.toExecution_row fits fit, rfl, alike,
    Instant.universal_unzoned fits.startedAt, ?_⟩
  cases time : e.completedAt with
  | none => simp [Execution.fromRow, time]
  | some t => simp [Execution.fromRow, time, Instant.universal_unzoned (fits.completedAt t time)]

theorem readAll_inRow (each : List.Forall₂ Execution.InRow es rows) :
    ∃ ds, rows.mapM ExecutionRow.toExecution = .ok ds ∧ List.Forall₂ Execution.Same es ds := by
  induction each with
  | nil => exact ⟨[], rfl, .nil⟩
  | cons head _ ih =>
      obtain ⟨d, read, same⟩ := read_inRow head
      obtain ⟨ds, reads, sames⟩ := ih
      exact ⟨d :: ds, by rw [List.mapM_cons, read, reads]; rfl, .cons same sames⟩

/-- Under one identifier stand an execution and its row. -/
theorem find?_inRow (each : List.Forall₂ Execution.InRow es rows) (id : RecordId) :
    Option.Rel Execution.InRow (Keyed.find? Execution.id id es)
      (Keyed.find? ExecutionRow.id id rows) := by
  induction each with
  | nil => exact .none
  | @cons e row es rows head _ ih =>
      have same : row.id = e.id := by
        obtain ⟨_, os, _, _, rfl⟩ := head
        rfl
      simp only [Keyed.find?, List.find?_cons, same] at ih ⊢
      by_cases here : e.id = id
      · simpa [here] using Option.Rel.some head
      · simpa [here] using ih

theorem modify_inRow (each : List.Forall₂ Execution.InRow es rows) (inRow : e.InRow row)
    (id : RecordId) :
    List.Forall₂ Execution.InRow (Keyed.modify Execution.id id (fun _ => e) es)
      (Keyed.modify ExecutionRow.id id (fun _ => row) rows) := by
  induction each with
  | nil => exact .nil
  | @cons d r es rows head _ ih =>
      have same : r.id = d.id := by
        obtain ⟨_, os, _, _, rfl⟩ := head
        rfl
      simp only [Keyed.modify, List.map_cons, same] at ih ⊢
      refine .cons ?_ ih
      by_cases here : d.id = id
      · simpa [here] using inRow
      · simpa [here] using head

/-- Executions and rows are picked alike. -/
theorem filter_inRow {p : Execution → Bool} {q : ExecutionRow → Bool}
    (each : List.Forall₂ Execution.InRow es rows)
    (alike : ∀ {e row}, Execution.InRow e row → q row = p e) :
    List.Forall₂ Execution.InRow (es.filter p) (rows.filter q) :=
  List.rel_filter (fun {e row} inRow => by simp only [alike inRow]) each

theorem any_inRow {p : Execution → Bool} {q : ExecutionRow → Bool}
    (each : List.Forall₂ Execution.InRow es rows)
    (alike : ∀ {e row}, Execution.InRow e row → q row = p e) : rows.any q = es.any p := by
  induction each with
  | nil => rfl
  | cons head _ ih => rw [List.any_cons, List.any_cons, ih, alike head]

theorem starts_inRow (each : List.Forall₂ Execution.InRow es rows) :
    (rows.map fun r => (r.startedAt.civil : Int)) = es.map fun e => e.startedAt.universal := by
  induction each with
  | nil => rfl
  | cons head _ ih =>
      obtain ⟨fits, os, _, _, rfl⟩ := head
      rw [List.map_cons, List.map_cons, ih, ← Instant.universal_unzoned fits.startedAt]
      simp [Execution.row, Instant.universal, Instant.unzoned]

/-- Rows of executions that stand in the order of their starts are in that order. -/
theorem oldestFirst_inRow (each : List.Forall₂ Execution.InRow es rows)
    (rising : (es.map Execution.startedAt).Pairwise Instant.NotAfter) :
    ExecutionRow.oldestFirst rows = rows := by
  have later : (es.map fun e => e.startedAt.universal).Pairwise (· ≤ ·) :=
    List.pairwise_map.mpr ((List.pairwise_map.mp rising).imp fun h => h.2)
  rw [← starts_inRow each] at later
  refine List.mergeSort_of_pairwise ((List.pairwise_map.mp later).imp fun h => ?_)
  exact decide_eq_true (Int.ofNat_le.mp h)

/-- Executions that stand in the order of their starts have an order, and are in it. -/
theorem oldestFirst_rising (rising : (es.map Execution.startedAt).Pairwise Instant.NotAfter) :
    Execution.haveOrder es = true ∧ Execution.oldestFirst es = es := by
  constructor
  · cases es with
    | nil => rfl
    | cons e es =>
        rw [List.map_cons, List.pairwise_cons] at rising
        have zoned : ∀ d ∈ es, d.startedAt.isZoned = e.startedAt.isZoned := fun d hd =>
          (rising.1 d.startedAt (List.mem_map_of_mem hd)).1.symm
        cases first : e.startedAt.isZoned with
        | true => simp_all [Execution.haveOrder]
        | false => simp_all [Execution.haveOrder]
  · refine List.mergeSort_of_pairwise ((List.pairwise_map.mp rising).imp fun later => ?_)
    exact decide_eq_true later.2

end Rows

theorem hasCompleted (h : Tabled m s) (workflowId : Uid) (entityType entityId : String) :
    s.hasCompleted workflowId entityType entityId
      = m.hasCompleted workflowId entityType entityId := by
  refine any_inRow h.executions ?_
  rintro e _ ⟨fits, os, _, _, rfl⟩
  have completed := ColumnWord.ofOpen_eq_iff fits.status ⟨RunStatus.completed, rfl⟩
  exact congrArg (e.isFor workflowId entityType entityId && ·) (decide_eq_decide.mpr completed)

theorem getExecution (h : Tabled m s) (id : RecordId) :
    ∃ d, s.getExecution id = .ok d ∧ Option.Rel Execution.Same (m.getExecution id) d := by
  have found := find?_inRow h.executions id
  rw [RelationalStore.getExecution, MemoryStore.getExecution]
  generalize Keyed.find? Execution.id id m.executions = e,
    Keyed.find? ExecutionRow.id id s.executions = row at found ⊢
  cases found with
  | none => exact ⟨none, rfl, .none⟩
  | some inRow =>
      obtain ⟨d, read, same⟩ := read_inRow inRow
      exact ⟨some d, mapM_some_of_ok read, .some same⟩

/-- Of executions picked by what their rows have too, a list is answered alike, as it stands. -/
theorem listed (h : Tabled m s) {p : Execution → Bool} {q : ExecutionRow → Bool}
    (alike : ∀ {e row}, Execution.InRow e row → q row = p e) :
    (Execution.haveOrder (m.executions.filter p) = true ∧
      Execution.oldestFirst (m.executions.filter p) = m.executions.filter p) ∧
      ∃ ds, (ExecutionRow.oldestFirst (s.executions.filter q)).mapM ExecutionRow.toExecution
        = .ok ds ∧ List.Forall₂ Execution.Same (m.executions.filter p) ds := by
  have each := filter_inRow h.executions alike
  have rising : ((m.executions.filter p).map Execution.startedAt).Pairwise Instant.NotAfter :=
    h.rising.sublist (List.filter_sublist.map Execution.startedAt)
  refine ⟨oldestFirst_rising rising, ?_⟩
  rw [oldestFirst_inRow each rising]
  exact readAll_inRow each

theorem replies_hasCompleted (h : Tabled m s) (workflowId : Uid) (entityType entityId : String) :
    RepliesAlike ((Store.memory m).perform (.hasCompleted workflowId entityType entityId))
      ((Store.relational s).perform (.hasCompleted workflowId entityType entityId)) := by
  refine h.replied ⟨.flag _, .flag _, rfl, ?_,
    .flag (m.hasCompleted workflowId entityType entityId)⟩
  exact congrArg (fun b => Except.ok (Store.Reply.flag b))
    (h.hasCompleted workflowId entityType entityId)

theorem replies_getExecution (h : Tabled m s) (id : RecordId) :
    RepliesAlike ((Store.memory m).perform (.getExecution id))
      ((Store.relational s).perform (.getExecution id)) := by
  obtain ⟨d, read, same⟩ := h.getExecution id
  refine h.replied ⟨.execution (m.getExecution id), .execution d, rfl, ?_, .execution same⟩
  exact congrArg (Store.Reply.execution <$> ·) read

theorem replies_listExecutions (h : Tabled m s) (workflowId : Uid) :
    RepliesAlike ((Store.memory m).perform (.listExecutions workflowId))
      ((Store.relational s).perform (.listExecutions workflowId)) := by
  obtain ⟨_, ds, read, same⟩ := h.listed (p := fun e => e.workflowId = workflowId)
    (q := fun r => r.workflowId = workflowId) fun inRow => by
      obtain ⟨_, os, _, _, rfl⟩ := inRow
      rfl
  refine h.replied ⟨.executions (m.listExecutions workflowId), .executions ds, rfl, ?_,
    .executions same⟩
  exact congrArg (Store.Reply.executions <$> ·) read

theorem replies_listEntityExecutions (h : Tabled m s) (entityType entityId : String) :
    RepliesAlike ((Store.memory m).perform (.listEntityExecutions entityType entityId))
      ((Store.relational s).perform (.listEntityExecutions entityType entityId)) := by
  obtain ⟨⟨ordered, still⟩, ds, read, same⟩ := h.listed
    (p := fun e => e.entityType = entityType && e.entityId = entityId)
    (q := fun r => r.entityType = entityType && r.entityId = entityId) fun inRow => by
      obtain ⟨_, os, _, _, rfl⟩ := inRow
      rfl
  have memory : m.listEntityExecutions entityType entityId = .ok (m.executions.filter fun e =>
      e.entityType = entityType && e.entityId = entityId) := by
    simp only [MemoryStore.listEntityExecutions, ordered, if_true, still]
  refine h.replied ⟨.executions _, .executions ds, ?_, ?_, .executions same⟩
  · exact congrArg (Store.Reply.executions <$> ·) memory
  · exact congrArg (Store.Reply.executions <$> ·) read

theorem same_refl (e : Execution) : e.Same e := ⟨rfl, .inl rfl, rfl, rfl⟩

theorem replies_createExecution (h : Tabled m s) {e : Execution}
    (suits : (Store.Call.createExecution e).IsFor m) :
    RepliesAlike ((Store.memory m).perform (.createExecution e))
      ((Store.relational s).perform (.createExecution e)) := by
  obtain ⟨fits, begins, new, later⟩ := suits
  have put : m.putExecution e = { m with executions := m.executions ++ [e] } := by
    rw [MemoryStore.putExecution, put_of_fresh new]
  have inserted : s.insertExecution e
      = .ok { s with executions := s.executions ++ [e.row e.outcomes] } := by
    have row : RelationalStore.insertRow ExecutionRow.id s.executions (e.row e.outcomes)
        = .ok (s.executions ++ [e.row e.outcomes]) :=
      insertRow_of_new (by rw [ids_inRow h.executions]; exact new)
    rw [RelationalStore.insertExecution,
      ExecutionRow.ofExecution_of_fits fits begins.errorMessage begins.completedAt]
    simp only [bind, Except.bind, row]
    rfl
  have inRow : e.InRow (e.row e.outcomes) := ⟨fits, e.outcomes, fits.outcomes, .inl rfl, rfl⟩
  have next : Tabled { m with executions := m.executions ++ [e] }
      { s with executions := s.executions ++ [e.row e.outcomes] } :=
    { h with
      executions := List.rel_append h.executions (.cons inRow .nil)
      executionsOnce := nodup_keys_append h.executionsOnce new
      rising := by
        rw [List.map_append, List.pairwise_append]
        refine ⟨h.rising, List.pairwise_singleton _ _, fun t ht u hu => ?_⟩
        obtain ⟨c, hc, rfl⟩ := List.mem_map.mp ht
        rw [List.mem_singleton.mp hu]
        exact later c hc }
  obtain ⟨d, read, _⟩ := next.getExecution e.id
  have table := RelationalStore.addExecution_ok inserted read
  refine ⟨⟨.execution (some e), .execution (some e), rfl, ?_, .execution (.some (same_refl e))⟩,
    _, _, congrArg Store.memory put, ?_, next⟩
  · exact congrArg (fun x => (fun _ => Store.Reply.execution (some e)) <$> x.1) table
  · exact congrArg (fun x => Store.relational x.2) table

theorem executionRow (h : Tabled m s) {id : RecordId} {e : Execution}
    (found : m.getExecution id = some e) :
    ∃ row, Keyed.find? ExecutionRow.id id s.executions = some row ∧ e.InRow row := by
  have stands := find?_inRow h.executions id
  rw [MemoryStore.getExecution] at found
  rw [found] at stands
  generalize Keyed.find? ExecutionRow.id id s.executions = row at stands
  cases stands with
  | some inRow => exact ⟨_, rfl, inRow⟩

/-- An execution that has gone on in both stores. -/
theorem goesOn (h : Tabled m s) {c e : Execution} {row : ExecutionRow}
    (found : m.getExecution e.id = some c) (sameRun : c.SameRun e) (inRow : e.InRow row) :
    Tabled { m with executions := Keyed.modify Execution.id e.id (fun _ => e) m.executions }
      { s with executions := Keyed.modify ExecutionRow.id e.id (fun _ => row) s.executions } :=
  { h with
    executions := modify_inRow h.executions inRow e.id
    executionsOnce := by
      rw [map_modify_kept fun _ _ same => same.symm]
      exact h.executionsOnce
    rising := by
      rw [map_modify_kept fun d hd same => ?_]
      · exact h.rising
      · -- the execution under the identifier is the one that goes on
        have same : Keyed.find? Execution.id e.id m.executions = some d :=
          same ▸ find?_of_mem h.executionsOnce hd
        obtain rfl : c = d := Option.some.inj (found.symm.trans same)
        rw [sameRun] }

theorem replies_finishExecution (h : Tabled m s) {e : Execution}
    (suits : (Store.Call.finishExecution e).IsFor m) :
    RepliesAlike ((Store.memory m).perform (.finishExecution e))
      ((Store.relational s).perform (.finishExecution e)) := by
  obtain ⟨fits, c, found, sameRun⟩ := suits
  have there : e.id ∈ m.executions.map Execution.id := by
    obtain ⟨hc, same⟩ := find?_mem found
    exact same ▸ List.mem_map_of_mem hc
  have put : m.putExecution e
      = { m with executions := Keyed.modify Execution.id e.id (fun _ => e) m.executions } := by
    rw [MemoryStore.putExecution, put_of_mem h.executionsOnce there]
  obtain ⟨row, stands, cFits, os, fit, _, rfl⟩ := h.executionRow found
  obtain ⟨os', fit', alike, finished⟩ := ExecutionRow.finish_row fits sameRun fit
  have finished : s.finishExecution e = .ok { s with
      executions := Keyed.modify ExecutionRow.id e.id (fun _ => e.row os') s.executions } := by
    rw [RelationalStore.finishExecution, stands]
    simp only [ExecutionRow.toExecution_row cFits fit, ExecutionRow.toExecution_row fits fit',
      finished, bind, Except.bind]
    rfl
  have next := h.goesOn found sameRun ⟨fits, os', fit', alike, rfl⟩
  refine ⟨⟨.execution (some e), .execution (some e), rfl, ?_, .execution (.some (same_refl e))⟩,
    _, _, congrArg Store.memory put, ?_, next⟩
  · rw [Store.perform, Store.finishExecution, finished]
    rfl
  · rw [Store.perform, Store.finishExecution, finished]

/-! ### All calls -/

/-- Every call is answered alike, and leaves the stores a memory and its tables. -/
theorem replies (h : Tabled m s) {c : Store.Call} (suits : c.IsFor m) :
    RepliesAlike ((Store.memory m).perform c) ((Store.relational s).perform c) := by
  cases c with
  | addWorkflow w => exact h.replies_addWorkflow suits
  | addRule r => exact h.replies_addRule suits
  | listActive entityType kind => exact h.replies_listActive entityType kind
  | getWorkflow id => exact h.replies_getWorkflow id
  | hasCompleted workflowId entityType entityId =>
      exact h.replies_hasCompleted workflowId entityType entityId
  | createExecution e => exact h.replies_createExecution suits
  | finishExecution e => exact h.replies_finishExecution suits
  | getExecution id => exact h.replies_getExecution id
  | listExecutions workflowId => exact h.replies_listExecutions workflowId
  | listEntityExecutions entityType entityId =>
      exact h.replies_listEntityExecutions entityType entityId
  | recordRun id time => exact h.replies_recordRun suits
  | getRule id => exact h.replies_getRule id
  | advanceRotation id size => exact h.replies_advanceRotation suits

/-- All calls are answered alike, one after the other. -/
theorem replies_all (h : Tabled m s) {cs : List Store.Call}
    (admitted : (Store.memory m).Admits cs) :
    List.Forall₂ Store.AnsweredAlike ((Store.memory m).replies cs)
      ((Store.relational s).replies cs) := by
  induction cs generalizing m s with
  | nil => exact .nil
  | cons c cs ih =>
      obtain ⟨⟨_, same, suits⟩, rest⟩ := admitted
      obtain rfl := Store.memory.inj same
      obtain ⟨alike, m', s', hm, hs, next⟩ := h.replies suits
      refine .cons alike ?_
      rw [hm] at rest ⊢
      rw [hs]
      exact ih next rest

end Tabled

/-- Tables refine a memory: whatever both stores are filled with and asked for, one call after the
other, as long as the calls are such as stores are made for, each call is answered by both, and
their answers are the same. -/
theorem tables_refine_memory (cs : List Store.Call) (admitted : (Store.memory {}).Admits cs) :
    List.Forall₂ Store.AnsweredAlike ((Store.memory {}).replies cs)
      ((Store.relational {}).replies cs) :=
  Tabled.empty.replies_all admitted

/-! ## A deal in the ledger

A workflow and a rule are stored; a run of the workflow begins, is counted and
ends, and the next owner is chosen. -/

/-- The workflow that greets a won deal. -/
def greetWon : Workflow where
  id := ⟨1⟩
  entityType := "deals"
  status := .known .active
  triggers := [{
    kind := .known .stageChanged
    conditions := [{ field := "stage", operator := .known .equals, value := .text "won" }] }]
  actions := [{
    id := ⟨2⟩, kind := .known .sendEmail, config := .record [("subject", .text "Thank you")] }]

/-- The rule by which two take turns. -/
def takeTurns : AssignmentRule where
  id := ⟨3⟩
  entityType := "deals"
  method := .known .roundRobin
  userIds := ["ann", "bob"]

/-- The run of the workflow as it begins. -/
def greetingOpened : Execution where
  id := .issued 0
  workflowId := ⟨1⟩
  trigger := .known .stageChanged
  entityType := "deals"
  entityId := "d1"
  startedAt := ⟨5, some 0⟩

/-- The run of the workflow as it has ended. -/
def greetingClosed : Execution :=
  { greetingOpened with
    status := .known .completed
    actionsExecuted := 1
    outcomes := [{
      actionId := ⟨2⟩, kind := .known .sendEmail, status := .success
      result := .record [("sent", .bool true)] }]
    completedAt := some ⟨7, some 0⟩ }

/-- The calls by which the deal is served. -/
def servingCalls : List Store.Call := [
  .addWorkflow greetWon, .addRule takeTurns, .listActive "deals" .stageChanged,
  .createExecution greetingOpened, .recordRun ⟨1⟩ ⟨6, some 0⟩, .finishExecution greetingClosed,
  .hasCompleted ⟨1⟩ "deals" "d1", .getExecution (.issued 0), .listEntityExecutions "deals" "d1",
  .getWorkflow ⟨1⟩, .advanceRotation ⟨3⟩ 2, .getRule ⟨3⟩]

theorem fits_greetWon : greetWon.Fits where
  status := ⟨_, rfl⟩
  runOrder := Column.keeps_whole.mpr (by decide)
  totalExecutions := Column.keeps_whole.mpr (by decide)
  lastExecutedAt := by simp [greetWon]
  triggers := by
    intro t ht
    obtain rfl := List.mem_singleton.mp ht
    refine ⟨⟨_, rfl⟩, fun c hc => ?_, rfl⟩
    obtain rfl := List.mem_singleton.mp hc
    exact ⟨Open.isRead_known _, .text _⟩
  actions := by
    intro a ha
    obtain rfl := List.mem_singleton.mp ha
    exact ⟨Open.isRead_known _, Column.keeps_whole.mpr (by decide),
      .record (by simp) (by simpa using .text _), rfl, by simp⟩

theorem fits_takeTurns : takeTurns.Fits where
  method := ⟨_, rfl⟩
  priority := Column.keeps_whole.mpr (by decide)
  conditions := by simp [takeTurns]
  cursor := by decide

theorem fits_greetingOpened : greetingOpened.Fits where
  trigger := ⟨_, rfl⟩
  status := ⟨_, rfl⟩
  actionsExecuted := by decide
  outcomes := by simp [greetingOpened]
  startedAt := rfl
  completedAt := by simp [greetingOpened]

theorem fits_greetingClosed : greetingClosed.Fits where
  trigger := ⟨_, rfl⟩
  status := ⟨_, rfl⟩
  actionsExecuted := by decide
  outcomes := by
    intro o ho
    obtain rfl := List.mem_singleton.mp ho
    exact ⟨Open.isRead_known _, .record (by simp) (by simpa using .bool _), .null⟩
  startedAt := rfl
  completedAt := by
    intro t ht
    obtain rfl := Option.mem_some_iff.mp ht
    rfl

theorem servingCalls_admitted : (Store.memory {}).Admits servingCalls := by
  refine ⟨⟨_, rfl, fits_greetWon, by decide, by decide⟩, ⟨_, rfl, fits_takeTurns, by decide⟩,
    ⟨_, rfl, trivial⟩, ⟨_, rfl, fits_greetingOpened, ⟨rfl, rfl, rfl⟩, by decide, ?_⟩,
    ⟨_, rfl, rfl, ?_⟩, ⟨_, rfl, fits_greetingClosed, greetingOpened, rfl, rfl⟩, ⟨_, rfl, trivial⟩,
    ⟨_, rfl, trivial⟩, ⟨_, rfl, trivial⟩, ⟨_, rfl, trivial⟩, ⟨_, rfl, by decide, by decide, ?_⟩,
    ⟨_, rfl, trivial⟩, trivial⟩
  · intro c hc
    cases hc
  · intro w hw
    obtain rfl := Option.some.inj hw
    exact ⟨0, rfl, by decide⟩
  · intro r hr
    obtain rfl := Option.some.inj hr
    decide

/-- The deal is served alike by a memory and by tables. -/
theorem servingCalls_alike : (Store.memory {}).Admits servingCalls ∧
    List.Forall₂ Store.AnsweredAlike ((Store.memory {}).replies servingCalls)
      ((Store.relational {}).replies servingCalls) :=
  ⟨servingCalls_admitted, tables_refine_memory servingCalls servingCalls_admitted⟩

end RecordFlow
