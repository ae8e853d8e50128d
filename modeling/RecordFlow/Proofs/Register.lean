/-
# The register — one view of the runs in either store

Of an entry it matters here whose run it is, with what status it stands and
when the run has ended.  These lines are read off the executions in memory and
off the rows of the table alike; a store that keeps everything in tables drops
what a time says of its zone.

What few requests touch is seen here as well: what the bus was told, what was
created, and the definitions.  `annals_answer` says which requests leave it alone.

What ties the register to the courses of the runs that are under way is
`Followed`: each run has a line, no two have the same, and where the store has
been given the end of a run the line shows it.  No answer to work that keeps to
the code breaks the tie: `Followed.answered`.
-/
import RecordFlow.Proofs.Course
import RecordFlow.Proofs.Holders

namespace RecordFlow

/-- What is seen of a run in a store. -/
structure RunLine where
  id : RecordId
  workflowId : Uid
  status : ColumnWord RunStatus
  completedAt : Option Instant
deriving DecidableEq, Repr

/-- A time as a store keeps it. -/
def Instant.kept (memory : Bool) (t : Instant) : Instant := if memory then t else t.unzoned

@[simp] theorem Instant.kept_true : Instant.kept true = id := rfl

@[simp] theorem Instant.kept_false : Instant.kept false = Instant.unzoned := rfl

/-- The line of an execution as a store keeps it. -/
def Execution.runLine (memory : Bool) (e : Execution) : RunLine where
  id := e.id
  workflowId := e.workflowId
  status := .ofOpen e.status
  completedAt := e.completedAt.map (Instant.kept memory)

theorem Execution.runLine_id (memory : Bool) (e : Execution) : (e.runLine memory).id = e.id := rfl

/-- The line of a row. -/
def ExecutionRow.runLine (r : ExecutionRow) : RunLine where
  id := r.id
  workflowId := r.workflowId
  status := r.status
  completedAt := r.completedAt

theorem ExecutionRow.runLine_id (r : ExecutionRow) : r.runLine.id = r.id := rfl

/-- The register of a store. -/
def Store.runs : Store → List RunLine
  | .memory m => m.executions.map (Execution.runLine true)
  | .relational r => r.executions.map ExecutionRow.runLine

/-- Which runs are in a register, and of which workflows. -/
def RunLine.outline (ls : List RunLine) : List (RecordId × Uid) :=
  ls.map fun l => (l.id, l.workflowId)

/-! ## Writes to a store -/

namespace Store

variable {s s' : Store} {e : Execution} {l : RunLine}

theorem runs_of_table (same : s'.table = s.table) : s'.runs = s.runs := by
  cases s with
  | memory m =>
      cases s' with
      | memory m' => exact congrArg (List.map (Execution.runLine true)) (Sum.inl.inj same)
      | relational r' => cases same
  | relational r =>
      cases s' with
      | memory m' => cases same
      | relational r' => exact congrArg (List.map ExecutionRow.runLine) (Sum.inr.inj same)

/-- An execution that is created has one new line, or else nothing is changed and the creation
fails. -/
theorem runs_createExecution (fresh : e.id ∉ s.runs.map RunLine.id) :
    ((s.createExecution e).2.runs = s.runs ∧ (s.createExecution e).1 ≠ .ok ()) ∨
      ∃ l : RunLine, l.id = e.id ∧ l.workflowId = e.workflowId ∧
        (s.createExecution e).2.runs = s.runs ++ [l] := by
  cases s with
  | memory m =>
      have absent : e.id ∉ m.executions.map Execution.id := by
        simpa [runs, Function.comp_def, Execution.runLine] using fresh
      refine .inr ⟨e.runLine true, rfl, rfl, ?_⟩
      show (Keyed.put Execution.id e m.executions).map _ = _
      rw [put_of_fresh absent, List.map_append]
      rfl
  | relational r =>
      rcases addExecution_cases r e with ⟨same, failed⟩ | ⟨row, hrow, _, added⟩
      · exact .inl ⟨congrArg (fun r => (Store.relational r).runs) same, failed⟩
      · have line : row.runLine.id = e.id ∧ row.runLine.workflowId = e.workflowId := by
          obtain ⟨_, _, hrow⟩ := ok_of_bind_ok hrow
          obtain ⟨_, _, hrow⟩ := ok_of_bind_ok hrow
          obtain rfl := Except.ok.inj hrow
          exact ⟨rfl, rfl⟩
        refine .inr ⟨row.runLine, line.1, line.2, ?_⟩
        show (r.addExecution e).2.executions.map _ = _
        rw [added, List.map_append]
        rfl

/-- What is shown of an execution leaves its line that of the same run. -/
theorem runs_publishExecution (once : (s.runs.map RunLine.id).Nodup) (there : l ∈ s.runs)
    (id : l.id = e.id) (workflowId : l.workflowId = e.workflowId) :
    ∃ l' : RunLine, l'.id = e.id ∧ l'.workflowId = e.workflowId ∧
      (s.publishExecution e).runs = Keyed.modify RunLine.id e.id (fun _ => l') s.runs := by
  cases s with
  | memory m =>
      exact ⟨e.runLine true, rfl, rfl, map_modify (Execution.runLine_id true) m.executions⟩
  | relational r =>
      refine ⟨l, id, workflowId, ?_⟩
      rw [← id, ← put_of_mem once (List.mem_map_of_mem there), Keyed.put_self once there]
      rfl

/-- The end of a run that is stored is shown by its line. -/
theorem runs_finishExecution (once : (s.runs.map RunLine.id).Nodup) (there : l ∈ s.runs)
    (id : l.id = e.id) (workflowId : l.workflowId = e.workflowId)
    (finished : s.finishExecution e = (.ok (), s')) :
    s'.runs = Keyed.modify RunLine.id e.id (fun _ => e.runLine s.isMemory) s.runs := by
  cases s with
  | memory m =>
      obtain rfl := congrArg Prod.snd finished
      show (Keyed.put Execution.id e m.executions).map _ = _
      rw [Keyed.map_put (Execution.runLine_id true)]
      refine put_of_mem once ?_
      rw [Execution.runLine_id, ← id]
      exact List.mem_map_of_mem there
  | relational r =>
      rcases finishExecution_cases r e with ⟨f, failed⟩ | ⟨old, found, row, hrow, ended⟩
      · cases failed.symm.trans finished
      · obtain rfl : _ = s' := congrArg Prod.snd (ended.symm.trans finished)
        obtain ⟨mem, same⟩ := find?_mem found
        have line : old.runLine = l :=
          List.inj_on_of_nodup_map once (List.mem_map_of_mem mem) there (same.trans id.symm)
        have sameWorkflow : old.workflowId = e.workflowId :=
          (congrArg RunLine.workflowId line).trans workflowId
        have shows : row.runLine = e.runLine false := by
          obtain ⟨_, _, hrow⟩ := ok_of_bind_ok hrow
          obtain ⟨_, _, hrow⟩ := ok_of_bind_ok hrow
          obtain rfl := Except.ok.inj hrow
          simp [ExecutionRow.runLine, Execution.runLine, same, sameWorkflow]
        show (Keyed.modify ExecutionRow.id e.id (fun _ => row) r.executions).map _ = _
        rw [map_modify ExecutionRow.runLine_id, shows]
        rfl

theorem finishExecution_error {f : Failure} (failed : (s.finishExecution e).1 = .error f) :
    (s.finishExecution e).2 = s := by
  cases s with
  | memory m => cases failed
  | relational r =>
      rcases finishExecution_cases r e with ⟨_, unfinished⟩ | ⟨_, _, row, _, finished⟩
      · exact congrArg Prod.snd unfinished
      · rw [finished] at failed
        cases failed

end Store

/-! ## What few requests touch -/

/-- The definitions that a store keeps. -/
def Store.catalogue : Store → List (Filed Workflow) ⊕ List WorkflowRow
  | .memory m => .inl m.workflows
  | .relational r => .inr r.workflows

/-- Whether a request adds to what was created, has a run counted or tells the bus. -/
def Request.isNotable : Request → Bool
  | openExecution _ | createExecution _ | recordRun .. | emit .. => true
  | _ => false

theorem Request.not_notable_of_plain {r : Request} (plain : r.isBooking = false) :
    r.isNotable = false := by
  cases r <;> first | rfl | cases plain

namespace Store

theorem catalogue_createExecution (s : Store) (e : Execution) :
    (s.createExecution e).2.catalogue = s.catalogue :=
  s.createExecution_apart (fun _ _ => rfl) (fun _ _ => rfl) e

theorem catalogue_finishExecution (s : Store) (e : Execution) :
    (s.finishExecution e).2.catalogue = s.catalogue :=
  s.finishExecution_apart (fun _ _ => rfl) (fun _ _ => rfl) e

theorem catalogue_saveDelivery (s : Store) (d : Filed Delivery) :
    (s.saveDelivery d).2.catalogue = s.catalogue := by
  cases s with
  | memory m => rfl
  | relational r =>
      show Sum.inr (r.saveDelivery d.record).2.workflows = Sum.inr r.workflows
      obtain ⟨deliveries, saved⟩ := World.saveDelivery_relational r d.record
      rw [saved]

end Store

namespace World

/-- What the bus was told and whether there is one, what was created, and the definitions. -/
def annals (w : World) :
    (List (RunEvent × Execution) × Bool × List RecordId) ×
      (List (Filed Workflow) ⊕ List WorkflowRow) :=
  ((w.events, w.hasBus, w.created), w.store.catalogue)

theorem annals_storing {α : Type} {w : World} {answer : α} {after : Except Failure Unit × Store}
    {also : World → World} (kept : after.2.catalogue = w.store.catalogue)
    (h : ∀ v, (also v).annals = v.annals) : (w.storing answer after also).2.annals = w.annals := by
  have stored : (w.withStore after.2).annals = w.annals := congrArg (Prod.mk _) kept
  exact storing_of_stored (P := fun v => v.annals = w.annals) stored fun v same => (h v).trans same

theorem annals_patching (w : World) (t : String) (f : Adapter → Except Failure Adapter) :
    (w.patching t f).2.annals = w.annals :=
  patching_of_patched (P := fun v => v.annals = w.annals) rfl fun _ => rfl

theorem annals_noteSaved (d : Delivery) (w : World) : (noteSaved d w).annals = w.annals :=
  noteSaved_of_noted (P := fun v => v.annals = w.annals) rfl rfl

theorem annals_editRule (w : World) (slot : Option Nat) (f : AssignmentRule → AssignmentRule) :
    (w.editRule slot f).annals = w.annals := by
  refine congrArg (Prod.mk _) ?_
  simp only [editRule, Store.editRule]
  cases w.store <;> rfl

theorem annals_advanceRotation (w : World) (id : Uid) (size : Int) :
    (w.perform (.advanceRotation id size)).2.annals = w.annals := by
  refine advanceRotation_of_turned (P := fun v => v.annals = w.annals) rfl
    (fun place s advanced => congrArg (Prod.mk _) ?_)
    fun v slot f same => (annals_editRule v slot f).trans same
  rcases advanceRotation_cases advanced with ⟨_, _, old, rfl⟩ | ⟨_, _, old, rfl⟩ <;>
    rw [old] <;> rfl

theorem annals_perform (w : World) {r : Request} (quiet : r.isNotable = false) :
    (w.perform r).2.annals = w.annals := by
  have saved (d : Filed Delivery) := w.store.catalogue_saveDelivery d
  cases r with
  | openExecution | createExecution | recordRun | emit => cases quiet
  | publishExecution e =>
      refine congrArg (Prod.mk _) ?_
      simp only [perform, withStore, Store.publishExecution]
      cases w.store <;> rfl
  | finishExecution e => exact annals_storing (w.store.catalogue_finishExecution e) fun _ => rfl
  | advanceRotation id size => exact annals_advanceRotation w id size
  | writeCursor rule place => exact annals_editRule w _ _
  | turnCursor rule size => exact annals_editRule w _ _
  | openDelivery d => exact annals_storing (saved _) (annals_noteSaved _)
  | saveDelivery d => exact annals_storing (saved _) (annals_noteSaved _)
  | fileDelivery d => exact annals_storing (saved _) (annals_noteSaved _)
  | publishDelivery d =>
      refine congrArg (Prod.mk _) ?_
      simp only [perform, Store.publishDelivery]
      cases w.store <;> rfl
  | updateField t id field value => exact annals_patching ..
  | connectTag t id tag => exact annals_patching ..
  | disconnectTag t id tag => exact annals_patching ..
  | claim k =>
      simp only [perform]
      split <;> rfl
  | _ => rfl

/-- What was told, created and defined is left alone by all other requests. -/
theorem annals_answer (w : World) {r : Request} (quiet : r.isNotable = false) :
    (w.answer r).2.annals = w.annals :=
  answer_of_perform (P := fun v => v.annals = w.annals) (fun _ => rfl) fun faults =>
    annals_perform { w with faults } quiet

/-- An entry that is opened is noted, and nobody is told of it. -/
theorem annals_openExecution (w : World) (e : Execution) :
    (w.answer (.openExecution e)).2.annals
      = ((w.events, w.hasBus, match (w.answer (.openExecution e)).1 with
          | .ok e' => w.created ++ [e'.id]
          | .error _ => w.created), w.store.catalogue) := by
  rcases w.answer_cases (.openExecution e) with ⟨no, _⟩ | ⟨f, faults, h⟩ | ⟨faults, h⟩
  · cases no
  · rw [h]
    rfl
  · rw [h]
    have kept := w.store.catalogue_createExecution { e with id := .issued (w.issued + 1) }
    simp only [perform, storing]
    split <;> rename_i created <;> rw [created] at kept <;> exact congrArg (Prod.mk _) kept

/-- What the bus is told is no business of the store. -/
theorem annals_emit (w : World) (event : RunEvent) (e : Execution) :
    (w.answer (.emit event e)).2.annals.2 = w.annals.2 := by
  rcases w.answer_cases (.emit event e) with ⟨_, h⟩ | ⟨f, faults, h⟩ | ⟨faults, h⟩ <;>
    rw [h] <;> rfl

/-- A run that is counted is told of to nobody. -/
theorem annals_recordRun (w : World) (id : Uid) (time : Instant) :
    (w.answer (.recordRun id time)).2.annals.1 = w.annals.1 := by
  rcases w.answer_cases (.recordRun id time) with ⟨no, _⟩ | ⟨f, faults, h⟩ | ⟨faults, h⟩
  · cases no
  · rw [h]
    rfl
  · rw [h]
    simp only [perform, countRun]
    split <;> rfl

end World

/-! ## Answers -/

namespace World

variable {w w' : World} {e : Execution}

/-- An entry that is to be opened has one new line, under the identifier that is issued next, or
else the register is as it was and the opening fails. -/
theorem runs_openExecution
    (fresh : RecordId.issued (w.issued + 1) ∉ w.store.runs.map RunLine.id) :
    ((w.answer (.openExecution e)).2.store.runs = w.store.runs ∧
        w.issued ≤ (w.answer (.openExecution e)).2.issued ∧
        ∃ f, (w.answer (.openExecution e)).1 = .error f) ∨
      ∃ l : RunLine, l.id = .issued (w.issued + 1) ∧ l.workflowId = e.workflowId ∧
        (w.answer (.openExecution e)).2.store.runs = w.store.runs ++ [l] ∧
        (w.answer (.openExecution e)).2.issued = w.issued + 1 ∧
        ((w.answer (.openExecution e)).1 = .ok { e with id := .issued (w.issued + 1) } ∨
          ∃ f, (w.answer (.openExecution e)).1 = .error f) := by
  rcases w.answer_cases (.openExecution e) with ⟨no, _⟩ | ⟨f, faults, h⟩ | ⟨faults, h⟩
  · cases no
  · rw [h]
    exact .inl ⟨rfl, Nat.le_refl _, f, rfl⟩
  · obtain ⟨_, _, issued, store, result⟩ := perform_openExecution { w with faults } e
    rw [h, store, issued]
    rcases Store.runs_createExecution (s := w.store) (e := { e with id := .issued (w.issued + 1) })
        fresh with ⟨same, failed⟩ | ⟨l, id, workflowId, runs⟩
    · refine .inl ⟨same, Nat.le_succ _, ?_⟩
      rcases result with ok | ⟨f, error⟩
      · refine absurd ?_ failed
        have opens := openExecution_ok (w := w) (e := e) (h.trans (Prod.ext ok rfl))
        exact congrArg Prod.fst opens.2
      · exact ⟨f, error⟩
    · exact .inr ⟨l, id, workflowId, runs, rfl, result⟩

/-- The answers are as the code reckons with, where the bus takes what it is told and a steady
runner is entered. -/
theorem expected {steady : Bool} {r : Request}
    (told : ∀ event e, r = .emit event e → ∀ f, (w.answer r).1 ≠ .error f)
    (entered : steady = true → r = .enterRunner → ∀ f, (w.answer r).1 ≠ .error f) :
    (coursing steady).expects r (w.answer r).1 := by
  cases r with
  | openExecution e =>
      cases opened : (w.answer (.openExecution e)).1 with
      | ok e' => exact ⟨_, (openExecution_ok (Prod.ext opened rfl)).1⟩
      | error f => trivial
  | emit event e =>
      cases said : (w.answer (.emit event e)).1 with
      | ok a => trivial
      | error f => exact told event e rfl f said
  | enterRunner =>
      cases came : (w.answer .enterRunner).1 with
      | ok a => trivial
      | error f =>
          cases steady with
          | false => rfl
          | true => exact absurd came (entered rfl rfl f)
  | now | log | publishExecution => trivial
  | _ => cases (w.answer _).1 <;> trivial

/-- Identifiers are issued one after the other. -/
theorem issued_le_answer (w : World) (r : Request) : w.issued ≤ (w.answer r).2.issued := by
  cases writes : r.writesEntry with
  | false => exact (w.table_answer writes).2.ge
  | true =>
      refine answer_of_perform (P := fun v => w.issued ≤ v.issued) (fun _ => Nat.le_refl _)
        fun faults => ?_
      cases r with
      | openExecution e =>
          rw [(perform_openExecution { w with faults } e).2.2.1]
          exact Nat.le_succ _
      | createExecution e =>
          simp only [perform, storing]
          split <;> exact Nat.le_refl _
      | publishExecution e => exact Nat.le_refl _
      | finishExecution e => rw [(perform_finishExecution { w with faults } e).2.2.1]
      | _ => cases writes

/-- An end that is refused leaves the store as it was. -/
theorem store_finishExecution {f : Failure}
    (refused : (w.answer (.finishExecution e)).1 = .error f) :
    (w.answer (.finishExecution e)).2.store = w.store ∧
      (w.answer (.finishExecution e)).2.issued = w.issued := by
  rcases w.answer_cases (.finishExecution e) with ⟨no, _⟩ | ⟨g, faults, h⟩ | ⟨faults, h⟩
  · cases no
  · rw [h]
    exact ⟨rfl, rfl⟩
  · obtain ⟨_, _, issued, store⟩ := perform_finishExecution { w with faults } e
    rw [h] at refused ⊢
    refine ⟨store.trans ?_, issued⟩
    cases finished : w.store.finishExecution e with
    | mk x s =>
        cases x with
        | ok u =>
            simp only [perform, storing, finished] at refused
            cases refused
        | error g =>
            have same := Store.finishExecution_error (congrArg Prod.fst finished)
            rwa [finished] at same

end World

/-! ## The tie -/

namespace Course

/-- A register shows what a phase says of its run. -/
def StandsIn (memory : Bool) (ls : List RunLine) : Course → Prop
  | silent => True
  | opened e => e.status = .known .running ∧ ∃ l ∈ ls, l.id = e.id ∧ l.workflowId = e.workflowId
  | closed e => e.IsShut ∧ ∃ l ∈ ls, l.id = e.id ∧ l.workflowId = e.workflowId
  | going e | lost e => ∃ l ∈ ls, l.id = e.id ∧ l.workflowId = e.workflowId
  | ended e _ | told e => e.IsShut ∧ e.runLine memory ∈ ls

/-- The identifier of the run that a piece of work has. -/
def id? (p : Course) : Option RecordId := p.shown?.map Execution.id

variable {memory : Bool} {ls ls' : List RunLine} {p : Course} {e : Execution}

theorem StandsIn.line (h : p.StandsIn memory ls) (has : p.shown? = some e) :
    ∃ l ∈ ls, l.id = e.id ∧ l.workflowId = e.workflowId := by
  cases p with
  | silent => cases has
  | opened _ | closed _ => exact Option.some.inj has ▸ h.2
  | going _ | lost _ => exact Option.some.inj has ▸ h
  | ended _ _ | told _ => exact Option.some.inj has ▸ ⟨_, h.2, rfl, rfl⟩

theorem StandsIn.mono (h : p.StandsIn memory ls)
    (stays : ∀ l ∈ ls, p.id? = some l.id → l ∈ ls') : p.StandsIn memory ls' := by
  have line {e : Execution} (has : p.shown? = some e)
      (there : ∃ l ∈ ls, l.id = e.id ∧ l.workflowId = e.workflowId) :
      ∃ l ∈ ls', l.id = e.id ∧ l.workflowId = e.workflowId := by
    obtain ⟨l, hl, id, workflowId⟩ := there
    exact ⟨l, stays l hl (by rw [id?, has, Option.map_some, id]), id, workflowId⟩
  cases p with
  | silent => trivial
  | opened e | closed e => exact ⟨h.1, line rfl h.2⟩
  | going e | lost e => exact line rfl h
  | ended e counted | told e => exact ⟨h.1, stays _ h.2 rfl⟩

end Course

/-- Each run that is or was under way since a number was issued has its line, and no two have the
same. -/
structure Followed (past : Nat) (memory : Bool) (w : World) (ps : List Course) : Prop where
  kind : w.store.isMemory = memory
  once : (w.store.runs.map RunLine.id).Nodup
  numbered : ∀ l ∈ w.store.runs, ∀ n, l.id = .issued n → n ≤ w.issued
  since : past ≤ w.issued
  stands : ∀ p ∈ ps, p.StandsIn memory w.store.runs
  later : ∀ p ∈ ps, ∀ id, p.id? = some id → ∃ n, id = .issued n ∧ past < n
  apart : (ps.filterMap Course.id?).Nodup

namespace Followed

variable {past : Nat} {memory steady : Bool} {w w' : World} {front back ps : List Course}
  {p q : Course} {e e' : Execution} {r : Request}

theorem fresh (h : Followed past memory w ps) :
    RecordId.issued (w.issued + 1) ∉ w.store.runs.map RunLine.id := by
  intro there
  obtain ⟨l, hl, same⟩ := List.mem_map.mp there
  exact Nat.not_succ_le_self _ (h.numbered l hl _ same)

/-- The lines of the runs stay as they are, and nobody goes on. -/
theorem of_runs (h : Followed past memory w ps) (kind : w'.store.isMemory = w.store.isMemory)
    (runs : w'.store.runs = w.store.runs) (issued : w.issued ≤ w'.issued) :
    Followed past memory w' ps where
  kind := kind.trans h.kind
  once := runs ▸ h.once
  numbered l hl n hn := Nat.le_trans (h.numbered l (runs ▸ hl) n hn) issued
  since := Nat.le_trans h.since issued
  stands := runs ▸ h.stands
  later := h.later
  apart := h.apart

/-- The store stays as it is, and nobody goes on. -/
theorem elsewhere (h : Followed past memory w ps) (table : w'.store.table = w.store.table)
    (issued : w.issued ≤ w'.issued) : Followed past memory w' ps := by
  exact h.of_runs (congrArg Sum.isLeft table) (Store.runs_of_table table) issued

/-- Work goes on with the same run. -/
theorem pass (h : Followed past memory w (front ++ p :: back)) (same : q.id? = p.id?)
    (stands : q.StandsIn memory w.store.runs) : Followed past memory w (front ++ q :: back) where
  kind := h.kind
  once := h.once
  numbered := h.numbered
  since := h.since
  stands := forall_mem_middle.mpr ⟨stands, (forall_mem_middle.mp h.stands).2⟩
  later := by
    obtain ⟨here, others⟩ := forall_mem_middle.mp h.later
    exact forall_mem_middle.mpr ⟨same ▸ here, others⟩
  apart := by
    have apart := h.apart
    simp only [List.filterMap_append, List.filterMap_cons, same] at apart ⊢
    exact apart

/-- Work that waited begins, without a run. -/
theorem begun (h : Followed past memory w ps) (queue : List Background) :
    Followed past memory { w with queue } (ps ++ [.silent]) where
  kind := h.kind
  once := h.once
  numbered := h.numbered
  since := h.since
  stands p hp := by
    rcases List.mem_append.mp hp with hp | hp
    · exact h.stands p hp
    · obtain rfl := List.mem_singleton.mp hp
      trivial
  later p hp id has := by
    rcases List.mem_append.mp hp with hp | hp
    · exact h.later p hp id has
    · obtain rfl := List.mem_singleton.mp hp
      cases has
  apart := by
    rw [List.filterMap_append]
    exact (List.append_nil _).symm ▸ h.apart

/-- No other has the run. -/
theorem alone (h : Followed past memory w (front ++ p :: back)) (has : p.shown? = some e) :
    (∀ q ∈ front ++ back, q.id? ≠ some e.id) ∧ ((front ++ back).filterMap Course.id?).Nodup :=
  (Holders.apart_middle has).mp h.apart

/-- A line is added, under the identifier that is issued next. -/
theorem added (h : Followed past memory w ps) {l : RunLine} (id : l.id = .issued (w.issued + 1))
    (kind : w'.store.isMemory = w.store.isMemory) (runs : w'.store.runs = w.store.runs ++ [l])
    (issued : w'.issued = w.issued + 1) : Followed past memory w' ps where
  kind := kind.trans h.kind
  once := by
    rw [runs]
    exact nodup_keys_append h.once (id ▸ h.fresh)
  numbered x hx n hn := by
    rw [runs] at hx
    rw [issued]
    rcases List.mem_append.mp hx with hx | hx
    · exact Nat.le_succ_of_le (h.numbered x hx n hn)
    · obtain rfl := List.mem_singleton.mp hx
      obtain rfl := RecordId.issued.inj (hn.symm.trans id)
      exact Nat.le_refl _
  since := issued ▸ Nat.le_succ_of_le h.since
  stands p hp := (h.stands p hp).mono fun x hx _ => runs ▸ List.mem_append_left _ hx
  later := h.later
  apart := h.apart

/-- What is added is the line of a run that work begins with. -/
theorem opened (h : Followed past memory w (front ++ .silent :: back)) {l : RunLine}
    (id : l.id = .issued (w.issued + 1)) (kind : w'.store.isMemory = w.store.isMemory)
    (runs : w'.store.runs = w.store.runs ++ [l]) (issued : w'.issued = w.issued + 1)
    (running : e.status = .known .running) (same : e.id = l.id)
    (workflowId : l.workflowId = e.workflowId) :
    Followed past memory w' (front ++ .opened e :: back) := by
  have h' := h.added id kind runs issued
  have others := forall_mem_middle.mp h'.stands
  exact {
    kind := h'.kind
    once := h'.once
    numbered := h'.numbered
    since := h'.since
    stands := forall_mem_middle.mpr ⟨⟨running, l, by rw [runs]; simp, same.symm, workflowId⟩,
      others.2⟩
    later := by
      refine forall_mem_middle.mpr ⟨?_, (forall_mem_middle.mp h'.later).2⟩
      intro x has
      refine ⟨w.issued + 1, ?_, Nat.lt_succ_of_le h.since⟩
      exact (Option.some.inj has).symm.trans (same.trans id)
    apart := by
      have has : (Course.opened e).shown? = some e := rfl
      refine (Holders.apart_middle has).mpr ⟨?_, h.apart.sublist
        ((sublist_middle _ _ _).filterMap _)⟩
      intro q hq has
      obtain ⟨x, hx, sameId⟩ := Option.map_eq_some_iff.mp has
      obtain ⟨y, hy, there, _⟩ := ((forall_mem_middle.mp h.stands).2 q hq).line hx
      refine h.fresh (List.mem_map.mpr ⟨y, hy, ?_⟩)
      exact there.trans (sameId.trans (same.trans id)) }

/-- What is written of a run by the work that has it takes the place of its line. -/
theorem written (h : Followed past memory w (front ++ p :: back)) (had : p.shown? = some e)
    {l : RunLine} (id : l.id = e.id) (kind : w'.store.isMemory = w.store.isMemory)
    (runs : w'.store.runs = Keyed.modify RunLine.id e.id (fun _ => l) w.store.runs)
    (issued : w'.issued = w.issued) (has : q.id? = some e.id)
    (stands : q.StandsIn memory w'.store.runs) :
    Followed past memory w' (front ++ q :: back) := by
  have alone := h.alone had
  exact {
    kind := kind.trans h.kind
    once := by
      rw [runs, map_modify_kept fun _ _ same => id.trans same.symm]
      exact h.once
    numbered := by
      intro x hx n hn
      rw [runs] at hx
      rw [issued]
      rcases Keyed.mem_modify hx with rfl | ⟨hx, _⟩
      · obtain ⟨y, hy, same, _⟩ := ((forall_mem_middle.mp h.stands).1).line had
        exact h.numbered y hy n (same.trans (id.symm.trans hn))
      · exact h.numbered x hx n hn
    since := issued ▸ h.since
    stands := by
      refine forall_mem_middle.mpr ⟨stands, fun x hx => ?_⟩
      refine ((forall_mem_middle.mp h.stands).2 x hx).mono fun y hy same => ?_
      rw [runs]
      refine Keyed.mem_modify_of_ne hy fun here => alone.1 x hx ?_
      rw [same, here]
    later := by
      obtain ⟨here, others⟩ := forall_mem_middle.mp h.later
      refine forall_mem_middle.mpr ⟨?_, others⟩
      rw [has, ← show p.id? = some e.id from congrArg (Option.map Execution.id) had]
      exact here
    apart := by
      have same : q.id? = p.id? := has.trans (congrArg (Option.map Execution.id) had).symm
      have apart := h.apart
      simp only [List.filterMap_append, List.filterMap_cons, same] at apart ⊢
      exact apart }

/-! ### One answer -/

/-- What is shown of a run that is under way takes the place of its line. -/
theorem exists_shown (h : Followed past memory w (front ++ .going e :: back))
    (follows : Course.Follows e e') :
    ∃ l : RunLine, l.id = e.id ∧ l.workflowId = e.workflowId ∧
      (w.answer (.publishExecution e')).2.store.runs
        = Keyed.modify RunLine.id e.id (fun _ => l) w.store.runs := by
  obtain ⟨l, hl, same, of⟩ := (forall_mem_middle.mp h.stands).1
  rw [← follows.id, ← follows.workflowId]
  exact Store.runs_publishExecution h.once hl (same.trans follows.id.symm)
    (of.trans follows.workflowId.symm)

/-- The end of a run that the store takes takes the place of its line. -/
theorem runs_finished (h : Followed past memory w (front ++ .closed e :: back)) {x : Execution}
    (finished : (w.answer (.finishExecution e)).1 = .ok x) :
    (w.answer (.finishExecution e)).2.store.runs
      = Keyed.modify RunLine.id e.id (fun _ => e.runLine memory) w.store.runs := by
  obtain ⟨_, l, hl, same, of⟩ := (forall_mem_middle.mp h.stands).1
  have stored := World.closeExecution_ok (Prod.ext finished rfl :
    w.answer (.finishExecution e) = (.ok x, (w.answer (.finishExecution e)).2))
  rw [Store.runs_finishExecution h.once hl same of stored, h.kind]

/-- Work that writes no entry goes on with the same run. -/
theorem unwritten (h : Followed past memory w (front ++ p :: back))
    (unwritten : r.writesEntry = false) (same : q.id? = p.id?)
    (stands : ∀ ls, p.StandsIn memory ls → q.StandsIn memory ls) :
    Followed past memory (w.answer r).2 (front ++ q :: back) := by
  obtain ⟨table, issued⟩ := w.table_answer unwritten
  have still := h.elsewhere table issued.ge
  exact still.pass same (stands _ (forall_mem_middle.mp still.stands).1)

/-- A run begins, unless the call fails. -/
theorem openEntry (h : Followed past memory w (front ++ .silent :: back))
    (running : e.status = .known .running) :
    Followed past memory (w.answer (.openExecution e)).2
      (front ++ (coursing steady).next .silent (.openExecution e) (w.answer (.openExecution e)).1
        :: back) := by
  have kind := w.isMemory_answer (.openExecution e)
  rcases World.runs_openExecution h.fresh (e := e) with
    ⟨runs, issued, f, failed⟩ | ⟨l, id, workflowId, runs, issued, ok | ⟨f, failed⟩⟩
  · rw [failed]
    exact h.of_runs kind runs issued
  · rw [ok]
    exact h.opened id kind runs issued running id.symm workflowId
  · rw [failed]
    exact h.added id kind runs issued

/-- What is shown of a run, as it goes on or closed. -/
theorem showEntry (h : Followed past memory w (front ++ .going e :: back))
    (follows : Course.Follows e e') (id : q.id? = some e'.id)
    (stands : ∀ ls : List RunLine, (∃ l ∈ ls, l.id = e'.id ∧ l.workflowId = e'.workflowId) →
      q.StandsIn memory ls) :
    Followed past memory (w.answer (.publishExecution e')).2 (front ++ q :: back) := by
  obtain ⟨l, same, of, runs⟩ := h.exists_shown follows
  obtain ⟨l₀, hl₀, same₀, _⟩ := (forall_mem_middle.mp h.stands).1
  refine h.written rfl same (w.isMemory_answer _) runs rfl (id.trans (congrArg some follows.id))
    (stands _ ⟨l, ?_, same.trans follows.id.symm, of.trans follows.workflowId.symm⟩)
  rw [runs, ← same₀]
  exact Keyed.mem_modify_self hl₀

/-- The end of a run is stored, unless the call fails. -/
theorem finishEntry (h : Followed past memory w (front ++ .closed e :: back)) :
    Followed past memory (w.answer (.finishExecution e)).2
      (front ++ (coursing steady).next (.closed e) (.finishExecution e)
        (w.answer (.finishExecution e)).1 :: back) := by
  obtain ⟨shut, there⟩ := (forall_mem_middle.mp h.stands).1
  cases finished : (w.answer (.finishExecution e)).1 with
  | ok x =>
      have runs := h.runs_finished finished
      have issued : (w.answer (.finishExecution e)).2.issued = w.issued := by
        rcases w.answer_cases (.finishExecution e) with ⟨no, _⟩ | ⟨f, faults, ha⟩ | ⟨faults, ha⟩
        · cases no
        · rw [ha]
        · rw [ha]
          exact (World.perform_finishExecution { w with faults } e).2.2.1
      refine h.written rfl (e.runLine_id memory) (w.isMemory_answer _) runs issued rfl ⟨shut, ?_⟩
      obtain ⟨l, hl, same, _⟩ := there
      rw [runs, ← same]
      exact Keyed.mem_modify_self hl
  | error f =>
      obtain ⟨store, issued⟩ := World.store_finishExecution finished
      have still := h.elsewhere (congrArg Store.table store) issued.ge
      exact still.pass rfl (store ▸ there)

/-- No answer to work that keeps to the code breaks the tie. -/
theorem answered (h : Followed past memory w (front ++ p :: back))
    (allowed : (coursing steady).may p r) (expected : (coursing steady).expects r (w.answer r).1) :
    Followed past memory (w.answer r).2
      (front ++ (coursing steady).next p r (w.answer r).1 :: back) := by
  cases allowed with
  | plain plain rests =>
      rw [Course.next_of_plain plain]
      exact h.unwritten (Request.writesEntry_of_plain plain) rfl fun _ => id
  | opens running => exact h.openEntry running
  | starts =>
      cases told : (w.answer (.emit .started _)).1 with
      | ok a => exact h.unwritten rfl rfl fun _ stands => stands.2
      | error f =>
          rw [told] at expected
          exact expected.elim
  | shows follows running =>
      rw [Course.next_shown running]
      exact h.showEntry follows rfl fun _ there => there
  | closes follows shut =>
      rw [Course.next_closed shut]
      exact h.showEntry follows rfl fun _ there => ⟨shut, there⟩
  | finishes => exact h.finishEntry
  | counts completedAt =>
      cases counted : (w.answer (.recordRun _ _)).1 with
      | ok a => exact h.unwritten rfl rfl fun _ => id
      | error f => exact h.unwritten rfl rfl fun _ stands => ⟨_, stands.2, rfl, rfl⟩
  | tells sure =>
      cases told : (w.answer (.emit _ _)).1 with
      | ok a => exact h.unwritten rfl rfl fun _ => id
      | error f =>
          rw [told] at expected
          exact expected.elim

/-- A line that is written is that of the same run. -/
theorem outline_written (h : Followed past memory w (front ++ p :: back)) (has : p.shown? = some e)
    {l : RunLine} (same : l.id = e.id) (of : l.workflowId = e.workflowId)
    (runs : w'.store.runs = Keyed.modify RunLine.id e.id (fun _ => l) w.store.runs) :
    RunLine.outline w'.store.runs = RunLine.outline w.store.runs := by
  obtain ⟨l₀, hl₀, same₀, of₀⟩ := (forall_mem_middle.mp h.stands).1.line has
  rw [runs]
  refine map_modify_kept fun x hx here => ?_
  obtain rfl := List.inj_on_of_nodup_map h.once hx hl₀ (here.trans same₀.symm)
  exact Prod.ext (same.trans same₀.symm) (of.trans of₀.symm)

/-- Which runs are in the register, and of which workflows, is changed by an opening only. -/
theorem outline_answered (h : Followed past memory w (front ++ p :: back))
    (allowed : (coursing steady).may p r) (notOpening : r.isOpening = false) :
    RunLine.outline (w.answer r).2.store.runs = RunLine.outline w.store.runs := by
  have unwritten (unwritten : r.writesEntry = false) :
      RunLine.outline (w.answer r).2.store.runs = RunLine.outline w.store.runs :=
    congrArg RunLine.outline (Store.runs_of_table (w.table_answer unwritten).1)
  cases allowed with
  | plain plain rests => exact unwritten (Request.writesEntry_of_plain plain)
  | opens running => cases notOpening
  | starts | counts _ | tells _ => exact unwritten rfl
  | shows follows _ | closes follows _ =>
      obtain ⟨l, same, of, runs⟩ := h.exists_shown follows
      exact h.outline_written rfl same of runs
  | finishes =>
      cases finished : (w.answer (.finishExecution _)).1 with
      | ok x => exact h.outline_written rfl rfl rfl (h.runs_finished finished)
      | error f => rw [(World.store_finishExecution finished).1]

end Followed

/-! ## Where it starts -/

/-- Nothing is under way but errands that have not begun, and the runs of the register are told
apart, under no number that is yet to be issued. -/
structure System.IsRested (settings : Settings) (s : System Unit) : Prop where
  calls : ∀ c ∈ s.calls, ∃ errand : Errand, c = errand.program settings
  tasks : s.tasks = []
  once : (s.world.store.runs.map RunLine.id).Nodup
  numbered : ∀ l ∈ s.world.store.runs, ∀ n, l.id = .issued n → n ≤ s.world.issued

namespace System.IsRested

variable {settings : Settings} {s : System Unit}

theorem followed (h : s.IsRested settings) (k : Nat) :
    Followed s.world.issued s.world.store.isMemory s.world (List.replicate k .silent) where
  kind := rfl
  once := h.once
  numbered := h.numbered
  since := Nat.le_refl _
  stands p hp := by
    obtain rfl := List.eq_of_mem_replicate hp
    trivial
  later p hp id has := by
    obtain rfl := List.eq_of_mem_replicate hp
    cases has
  apart := by
    have none : (List.replicate k Course.silent).filterMap Course.id? = [] :=
      List.filterMap_eq_nil_iff.mpr fun p hp => by
        obtain rfl := List.eq_of_mem_replicate hp
        rfl
    rw [none]
    exact List.nodup_nil

theorem attended (h : s.IsRested settings) {steady : Bool} {Tied : World → List Course → Prop}
    (tied : Tied s.world (List.replicate s.calls.length .silent)) :
    Attended (coursing steady) Course.isEnd (fun _ _ => True) Tied s := by
  refine .of_start .silent (fun m hm => ?_) h.tasks tied
  obtain ⟨errand, rfl⟩ := h.calls m hm
  exact Course.leads_errand settings errand

end System.IsRested

end RecordFlow
