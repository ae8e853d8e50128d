/-
# Fail-stop — a run and what it records

A run goes through the actions that are no child of a branch, in the stable
order of their positions, and stops behind the first that fails.  What it
returns is an audit of just this, and stands in the store as it is returned.
That no other action leaves a trace anywhere is told by a comparison: the run
is the same, to the last entry of the log, as that of a workflow which has no
other actions.

What a single action does to the world, and the runs whose loop itself stops,
are not told here.
-/
import Mathlib.Data.List.Forall2
import RecordFlow.Proofs.Aside
import RecordFlow.Proofs.Sequential

namespace RecordFlow

namespace Execution

/-- The entry after the outcomes of several actions. -/
def appendAll (e : Execution) (os : List ActionOutcome) : Execution := os.foldl append e

@[simp] theorem appendAll_nil (e : Execution) : e.appendAll [] = e := rfl

theorem appendAll_cons (e : Execution) (o : ActionOutcome) (os : List ActionOutcome) :
    e.appendAll (o :: os) = (e.append o).appendAll os := rfl

/-- Outcomes are added at the end, the successes among them are counted, and nothing else
changes. -/
theorem appendAll_eq (e : Execution) (os : List ActionOutcome) :
    e.appendAll os = { e with
      outcomes := e.outcomes ++ os
      actionsExecuted := e.actionsExecuted + os.countP (·.status = .success) } := by
  induction os generalizing e with
  | nil => simp
  | cons o os ih =>
      rw [appendAll_cons, ih, append]
      by_cases h : o.status = .success <;> simp [h, Int.add_assoc, Int.add_comm]

end Execution

namespace Runner

/-- An outcome is what an action came to, in some state of the world. -/
def CameTo (site : Site) (a : Action) (o : ActionOutcome) : Prop :=
  ∃ w, ((execute site a).run w).1 = .ok o

/-- An outcome names its action, and one that failed says why. -/
theorem CameTo.names {site : Site} {a : Action} {o : ActionOutcome} (h : CameTo site a o) :
    o.actionId = a.id ∧ o.kind = a.kind ∧ (o.status = .failed → ∃ said, o.error = .text said) := by
  obtain ⟨w, h⟩ := h
  obtain ⟨_, w, _, h⟩ := Prog.ok_of_run_bind h
  cases hkind : a.kind with
  | foreign word =>
      simp only [hkind] at h
      obtain ⟨_, w, _, h⟩ := Prog.ok_of_run_bind h
      obtain rfl := Except.ok.inj h
      exact ⟨rfl, rfl, fun failed => by cases failed⟩
  | known kind =>
      simp only [hkind] at h
      obtain ⟨ended, w, hended, h⟩ := Prog.ok_of_run_bind h
      cases ended with
      | ok x =>
          obtain ⟨status, result⟩ := x
          obtain rfl := Except.ok.inj h
          refine ⟨rfl, rfl, fun failed => absurd failed ?_⟩
          rw [Prog.run_attempt] at hended
          exact (passes_attempted site a kind).ok_of_run (Except.ok.inj (congrArg Prod.fst hended))
      | error e =>
          obtain ⟨_, w, _, h⟩ := Prog.ok_of_run_bind h
          obtain rfl := Except.ok.inj h
          exact ⟨rfl, rfl, fun _ => ⟨_, rfl⟩⟩

end Runner

namespace Run

open Prog (ask attempt run_bind_ok)
open Runner (CameTo Site)

/-! ## The loop over the actions -/

/-- How the loop over actions has ended with some outcomes. -/
inductive Ended (actions : List Action) (e : Execution) (os : List ActionOutcome) :
    Progress → Prop where
  | through (all : os.length = actions.length) (fine : ∀ o ∈ os, o.status ≠ .failed) :
      Ended actions e os (.through (e.appendAll os))
  | stopped (before : List ActionOutcome) (last : ActionOutcome) (said : String)
      (here : os = before ++ [last]) (fine : ∀ o ∈ before, o.status ≠ .failed)
      (failed : last.status = .failed) (why : last.error = .text said) :
      Ended actions e os (.stopped (e.appendAll os) last.errorText?)

theorem Ended.cons {actions : List Action} {e : Execution} {os : List ActionOutcome}
    {p : Progress} {a : Action} {o : ActionOutcome} (fine : o.status ≠ .failed)
    (h : Ended actions (e.append o) os p) : Ended (a :: actions) e (o :: os) p := by
  cases h with
  | through all others =>
      refine .through (by simp [all]) ?_
      intro x hx
      rcases List.mem_cons.mp hx with rfl | hx
      · exact fine
      · exact others x hx
  | stopped before last said here others failed why =>
      refine .stopped (o :: before) last said (by simp [here]) ?_ failed why
      intro x hx
      rcases List.mem_cons.mp hx with rfl | hx
      · exact fine
      · exact others x hx

/-- The loop over actions comes to an end: it stops without having to, or it goes through a
first part of them, with an outcome for each, and does what it would do with these alone. -/
theorem runActions_run (site : Site) (actions : List Action) (e : Execution) (w : World) :
    ∃ p w', (runActions site actions e).run w = (.ok p, w') ∧
      ((∃ e' f, p = .raised e' f) ∨
        ∃ os, List.Forall₂ (CameTo site) (actions.take os.length) os ∧ Ended actions e os p ∧
          (runActions site (actions.take os.length) e).run w = (.ok p, w')) := by
  induction actions generalizing e w with
  | nil => exact ⟨_, w, rfl, .inr ⟨[], .nil, .through rfl nofun, rfl⟩⟩
  | cons a actions ih =>
      cases came : (Runner.execute site a).run w with
      | mk x w₁ =>
          have tried : (attempt (Runner.execute site a)).run w = (.ok x, w₁) := by
            rw [Prog.run_attempt, came]
          cases x with
          | error f => exact ⟨_, w₁, run_bind_ok tried, .inl ⟨e, f, rfl⟩⟩
          | ok o =>
              have here : CameTo site a o := ⟨w, by rw [came]⟩
              by_cases failed : o.status = .failed
              · have stops : ∀ rest, (runActions site (a :: rest) e).run w
                    = (.ok (.stopped (e.append o) o.errorText?), w₁) := fun rest => by
                  refine (run_bind_ok tried).trans ?_
                  simp [failed]
                obtain ⟨said, why⟩ := here.names.2.2 failed
                exact ⟨_, w₁, stops actions,
                  .inr ⟨[o], .cons here .nil, .stopped [] o said rfl nofun failed why, stops []⟩⟩
              · have goes : ∀ rest, (runActions site (a :: rest) e).run w
                    = (runActions site rest (e.append o)).run
                        (w₁.withStore (w₁.store.publishExecution (e.append o))) := fun rest => by
                  refine (run_bind_ok tried).trans ?_
                  simp only [failed, if_false]
                  exact run_bind_ok (by rw [Prog.run_ask, World.answer_publishExecution])
                obtain ⟨p, w', ran, h⟩ := ih (e.append o) (w₁.withStore _)
                refine ⟨p, w', (goes actions).trans ran, h.imp_right ?_⟩
                rintro ⟨os, each, ended, same⟩
                exact ⟨o :: os, .cons here each, ended.cons failed, (goes _).trans same⟩

end Run

/-! ## What stands in the store -/

/-- A row shows an execution, as its columns hold it. -/
structure ExecutionRow.Shows (r : ExecutionRow) (e : Execution) : Prop where
  id : r.id = e.id
  workflowId : r.workflowId = e.workflowId
  trigger : r.trigger = .ofOpen e.trigger
  entityType : r.entityType = e.entityType
  entityId : r.entityId = e.entityId
  triggeredBy : r.triggeredBy = e.triggeredBy
  status : r.status = .ofOpen e.status
  actionsExecuted : r.actionsExecuted = e.actionsExecuted
  outcomes : (outcomesValue e.outcomes).document = .ok r.outcomes
  errorMessage : r.errorMessage = e.errorMessage
  startedAt : r.startedAt = e.startedAt.unzoned
  completedAt : r.completedAt = e.completedAt.map Instant.unzoned

/-- An execution goes on: it has gone through some actions, or has been closed. -/
structure Execution.GoesOn (e₀ e : Execution) : Prop where
  fresh : e₀.outcomes = []
  same : e = { e₀ with
    status := e.status
    actionsExecuted := e.actionsExecuted
    outcomes := e.outcomes
    errorMessage := e.errorMessage
    completedAt := e.completedAt }

theorem Execution.GoesOn.id {e₀ e : Execution} (h : e₀.GoesOn e) : e.id = e₀.id := by
  rw [h.same]

namespace ExecutionRow

theorem whole_ok {n m : Int} (h : Column.whole n = .ok m) : m = n := by
  unfold Column.whole at h
  split at h
  · exact (Except.ok.inj h).symm
  · cases h

theorem id_ofExecution {e : Execution} {row : ExecutionRow} (h : ofExecution e = .ok row) :
    row.id = e.id := by
  obtain ⟨outcomes, _, h⟩ := ok_of_bind_ok h
  obtain ⟨count, _, h⟩ := ok_of_bind_ok h
  obtain rfl := Except.ok.inj h
  rfl

theorem document_nil : (outcomesValue []).document = .ok (.list []) := by
  simp [outcomesValue, Value.document, Value.documentItems]

/-- In the place of the document of no outcomes comes the document of the outcomes. -/
theorem replaceOutcomes_nil (os : List ActionOutcome) :
    replaceOutcomes (.list []) os = (outcomesValue os).document := by
  cases os with
  | nil => simp [replaceOutcomes, outcomesValue, Value.equal, Value.equalItems, ← document_nil]
  | cons o os => simp [replaceOutcomes, outcomesValue, Value.equal]

/-- A row that an execution began as, with the end of it written, shows the execution. -/
theorem shows_of_finish {e₀ e : Execution} {row row' : ExecutionRow} (goesOn : e₀.GoesOn e)
    (began : ofExecution e₀ = .ok row) (finished : row.finish e = .ok row') : row'.Shows e := by
  obtain ⟨doc, hdoc, began⟩ := ok_of_bind_ok began
  obtain ⟨_, _, began⟩ := ok_of_bind_ok began
  obtain rfl := Except.ok.inj began
  obtain ⟨doc', hdoc', finished⟩ := ok_of_bind_ok finished
  obtain ⟨count, hcount, finished⟩ := ok_of_bind_ok finished
  obtain rfl := Except.ok.inj finished
  obtain rfl := whole_ok hcount
  rw [goesOn.fresh, document_nil] at hdoc
  obtain rfl := Except.ok.inj hdoc
  rw [replaceOutcomes_nil] at hdoc'
  have same := goesOn.same
  rw [same]
  exact ⟨rfl, rfl, rfl, rfl, rfl, rfl, rfl, rfl, hdoc', rfl, rfl, rfl⟩

end ExecutionRow

namespace Store

/-- An execution stands in the store as it is: in memory itself, in a table as a row. -/
def Holds (s : Store) (e : Execution) : Prop :=
  match s with
  | memory m => m.getExecution e.id = some e
  | relational r =>
    ∃ row, Keyed.find? ExecutionRow.id e.id r.executions = some row ∧ row.Shows e

/-- Where executions are rows, there is one that an execution began as. -/
def Began (s : Store) (e : Execution) : Prop :=
  match s with
  | memory _ => True
  | relational r =>
    ∃ row, Keyed.find? ExecutionRow.id e.id r.executions = some row ∧
      ExecutionRow.ofExecution e = .ok row

variable {s s' : Store} {e : Execution}

theorem Holds.of_table (same : s'.table = s.table) (h : s.Holds e) : s'.Holds e := by
  cases s with
  | memory m =>
      cases s' with
      | memory m' =>
          have executions : m'.executions = m.executions := Sum.inl.inj same
          simpa only [Holds, MemoryStore.getExecution, executions] using h
      | relational r' => cases same
  | relational r =>
      cases s' with
      | memory m' => cases same
      | relational r' =>
          have executions : r'.executions = r.executions := Sum.inr.inj same
          simpa only [Holds, executions] using h

theorem Began.of_table (same : s'.table = s.table) (h : s.Began e) : s'.Began e := by
  cases s with
  | memory m =>
      cases s' with
      | memory m' => trivial
      | relational r' => cases same
  | relational r =>
      cases s' with
      | memory m' => cases same
      | relational r' =>
          have executions : r'.executions = r.executions := Sum.inr.inj same
          simpa only [Began, executions] using h

theorem Began.publishExecution (h : s.Began e) (e' : Execution) :
    (s.publishExecution e').Began e := by
  cases s with
  | memory m => trivial
  | relational r => exact h

theorem began_of_createExecution (created : s.createExecution e = (.ok (), s')) : s'.Began e := by
  cases s with
  | memory m =>
      obtain rfl := congrArg Prod.snd created
      trivial
  | relational r =>
      have ok : (r.addExecution e).1 = .ok () := congrArg Prod.fst created
      obtain rfl : Store.relational (r.addExecution e).2 = s' := congrArg Prod.snd created
      rcases addExecution_cases r e with ⟨_, failed⟩ | ⟨row, hrow, absent, added⟩
      · exact absurd ok failed
      · refine ⟨row, ?_, hrow⟩
        rw [added, ← ExecutionRow.id_ofExecution hrow]
        exact find?_append_of_none absent

/-- The end of a run that is stored stands there. -/
theorem holds_of_finishExecution (finished : s.finishExecution e = (.ok (), s'))
    {e₀ : Execution} (goesOn : e₀.GoesOn e) (began : s.Began e₀) : s'.Holds e := by
  cases s with
  | memory m =>
      obtain rfl := congrArg Prod.snd finished
      show Keyed.find? Execution.id e.id (Keyed.put Execution.id e m.executions) = some e
      rw [Keyed.find?_put, if_pos rfl]
  | relational r =>
      obtain ⟨row₀, there, began⟩ := began
      rcases finishExecution_cases r e with ⟨f, failed⟩ | ⟨old, found, row, hrow, ended⟩
      · cases failed.symm.trans finished
      · obtain rfl : _ = s' := congrArg Prod.snd (ended.symm.trans finished)
        rw [goesOn.id, there] at found
        obtain rfl := Option.some.inj found
        have shows := ExecutionRow.shows_of_finish goesOn began hrow
        exact ⟨row, find?_modify (goesOn.id ▸ there) shows.id, shows⟩

end Store

/-! ## From the opening of a run to its end -/

namespace Run

open Prog (ask run_bind_ok ok_of_run_bind isAside_bind isAside_ask only_pure)
open Runner (CameTo Site)

/-- What a run does after its loop over the actions. -/
def conclude (workflowId : Uid) : Progress → Prog Execution
  | .raised e f => abort workflowId e f
  | .stopped e error => do
    let now ← ask .now
    finish workflowId (e.closeFailed error now)
  | .through e => do
    let now ← ask .now
    finish workflowId (e.closeCompleted now)

/-- Where the actions of a run are performed. -/
def siteOf (settings : Settings) (context : Context) (workflowId : Uid) (id : RecordId) : Site :=
  { settings, context, workflowId := some workflowId, executionId := some id }

section

variable {settings : Settings} {workflow : Workflow} {trigger : Open TriggerKind}
  {context : Context} {triggeredBy : Option String} {w w₀ w₁ : World} {e₀ e : Execution}

theorem opened {e : Execution} (h : w.answer (.openExecution e) = (.ok e₀, w₀)) :
    ∃ n, e₀ = { e with id := .issued n } ∧ w₀.store.Began e₀ := by
  obtain ⟨same, created⟩ := World.openExecution_ok h
  exact ⟨_, same, Store.began_of_createExecution created⟩

theorem run_of_opened
    (hopen : w.answer (.openExecution
      (Execution.opening workflow trigger context triggeredBy w.clock)) = (.ok e₀, w₀))
    (htold : w₀.answer (.emit .started e₀) = (.ok (), w₁)) :
    (run settings workflow trigger context triggeredBy).run w
      = (runActions (siteOf settings context workflow.id e₀.id) (topLevel workflow) e₀
          >>= conclude workflow.id).run w₁ := by
  refine (run_bind_ok (Prog.run_ask .now w)).trans ?_
  refine (run_bind_ok ((Prog.run_ask _ _).trans hopen)).trans ?_
  exact run_bind_ok ((Prog.run_ask _ _).trans htold)

/-- A run that comes to a value has opened its entry and told the bus. -/
theorem opened_of_run_ok
    (h : ((run settings workflow trigger context triggeredBy).run w).1 = .ok e) :
    ∃ e₀ w₀ w₁, w.answer (.openExecution
        (Execution.opening workflow trigger context triggeredBy w.clock)) = (.ok e₀, w₀) ∧
      w₀.answer (.emit .started e₀) = (.ok (), w₁) := by
  rw [run, Prog.run_ask_bind, World.answer_now] at h
  obtain ⟨e₀, w₀, hopen, h⟩ := ok_of_run_bind h
  obtain ⟨_, w₁, htold, h⟩ := ok_of_run_bind h
  exact ⟨e₀, w₀, w₁, by rwa [Prog.run_ask] at hopen, by rwa [Prog.run_ask] at htold⟩

theorem abort_not_ok (workflowId : Uid) (f : Failure) :
    ((abort workflowId e f).run w).1 ≠ .ok e₀ := by
  intro h
  obtain ⟨_, _, _, h⟩ := ok_of_run_bind h
  obtain ⟨_, _, _, h⟩ := ok_of_run_bind h
  obtain ⟨_, _, _, h⟩ := ok_of_run_bind h
  obtain ⟨_, _, _, h⟩ := ok_of_run_bind h
  obtain ⟨_, _, _, h⟩ := ok_of_run_bind h
  cases h

/-- What the end of a run does when its entry has been closed. -/
def tally (workflowId : Uid) (e : Execution) : Prog Execution := do
  ask (.recordRun workflowId (e.completedAt.getD default))
  ask (.log (runFinished workflowId e))
  ask (.emit (if e.isCompleted then .completed else .failed) e)
  return e

theorem isAside_tally (workflowId : Uid) (e : Execution) : (tally workflowId e).IsAside := by
  refine isAside_bind (isAside_ask rfl) fun _ => isAside_bind (isAside_ask rfl) fun _ => ?_
  exact isAside_bind (isAside_ask rfl) fun _ => only_pure _

theorem finish_run (workflowId : Uid) (e : Execution) (w : World) :
    (finish workflowId e).run w =
      match (w.withStore (w.store.publishExecution e)).answer (.finishExecution e) with
      | (.ok _, w) => (tally workflowId e).run w
      | (.error f, w) => (.error f, w) := by
  rw [finish, Prog.run_ask_bind, World.answer_publishExecution]
  refine (Prog.run_ask_bind (.finishExecution e) (fun _ => tally workflowId e) _).trans ?_
  rcases World.answer _ (.finishExecution e) with ⟨_ | _, _⟩ <;> rfl

/-- The end of a run that comes to a value comes to the entry that it closes, which then stands
in the store. -/
theorem finish_ok (e₀ : Execution) {workflowId : Uid} {e' : Execution}
    (h : ((finish workflowId e).run w).1 = .ok e') :
    e' = e ∧ (e₀.GoesOn e → w.store.Began e₀ →
      ((finish workflowId e).run w).2.store.Holds e) := by
  rw [finish_run] at h ⊢
  cases hclose : (w.withStore (w.store.publishExecution e)).answer (.finishExecution e) with
  | mk x w₁ =>
      rw [hclose] at h
      cases x with
      | error f => cases h
      | ok x =>
          have ended := isAside_tally workflowId e
          refine ⟨?_, ?_⟩
          · obtain ⟨_, _, _, h⟩ := ok_of_run_bind h
            obtain ⟨_, _, _, h⟩ := ok_of_run_bind h
            obtain ⟨_, _, _, h⟩ := ok_of_run_bind h
            exact (Except.ok.inj h).symm
          · intro goesOn began
            refine .of_table (ended.run w₁).table ?_
            exact Store.holds_of_finishExecution (World.closeExecution_ok hclose) goesOn
              (began.publishExecution e)

/-! ### The row that a run began as -/

theorem began_answer {r : Request} (allowed : r.isAside = true ∨ ∃ e, r = .publishExecution e)
    (began : w.store.Began e₀) : (w.answer r).2.store.Began e₀ := by
  rcases allowed with aside | ⟨e, rfl⟩
  · exact began.of_table (World.aside_answer w aside).table
  · exact began.publishExecution e

theorem only_runActions (site : Site) (actions : List Action) (e : Execution) :
    (runActions site actions e).Only
      fun r => r.isAside = true ∨ ∃ e, r = .publishExecution e := by
  induction actions generalizing e with
  | nil => exact only_pure _
  | cons a actions ih =>
      have action : (Runner.execute site a).attempt.Only
          fun r => r.isAside = true ∨ ∃ e, r = .publishExecution e :=
        Prog.only_attempt ((Runner.isAside_execute site a).mono fun _ => .inl)
      refine Prog.only_bind action ?_
      intro x
      cases x with
      | error f => exact only_pure _
      | ok o =>
          show Prog.Only _ (if o.status = .failed then _ else _)
          split
          · exact only_pure _
          · exact Prog.only_bind (Prog.only_ask (.inr ⟨_, rfl⟩)) fun _ => ih _

end

/-! ## The audit -/

/-- What a run that has ended records of its actions. -/
structure Audit (site : Site) (actions : List Action) (e : Execution) : Prop where
  /-- The outcomes are those of the first actions, one for each, in their order. -/
  each : List.Forall₂ (fun a o => CameTo site a o ∧ o.actionId = a.id ∧ o.kind = a.kind)
    (actions.take e.outcomes.length) e.outcomes
  /-- The successes among them are counted. -/
  counted : e.actionsExecuted = e.outcomes.countP (·.status = .success)
  /-- The last outcome is the first that failed, and the run has failed with what it says; or
  there is an outcome of every action, none failed, and the run is completed. -/
  ended : (∃ before last said, e.outcomes = before ++ [last] ∧
      (∀ o ∈ before, o.status ≠ .failed) ∧ last.status = .failed ∧ last.error = .text said ∧
      e.status = .known .failed ∧ e.errorMessage = some said) ∨
    (e.outcomes.length = actions.length ∧ (∀ o ∈ e.outcomes, o.status ≠ .failed) ∧
      e.status = .known .completed ∧ e.errorMessage = none)

/-- The entry of a run that has ended: as it was opened, with outcomes, and closed. -/
def close (e : Execution) (now : Instant) : Progress → Execution
  | .through _ => e.closeCompleted now
  | .stopped _ error => e.closeFailed error now
  | .raised _ f => e.closeFailed (some f.report) now

theorem Ended.audit {site : Site} {actions : List Action} {e : Execution}
    {os : List ActionOutcome} {p : Progress} (now : Instant) (h : Ended actions e os p)
    (each : List.Forall₂ (CameTo site) (actions.take os.length) os) (fresh : e.outcomes = [])
    (zero : e.actionsExecuted = 0) (silent : e.errorMessage = none) :
    Audit site actions (close (e.appendAll os) now p) ∧
      (close (e.appendAll os) now p).outcomes = os := by
  have named := each.imp fun a o came => (⟨came, came.names.1, came.names.2.1⟩ :
    CameTo site a o ∧ o.actionId = a.id ∧ o.kind = a.kind)
  have outcomes : (close (e.appendAll os) now p).outcomes = os := by
    rw [Execution.appendAll_eq]
    cases h <;> simp [close, Execution.closeCompleted, Execution.closeFailed, fresh]
  have counted : (close (e.appendAll os) now p).actionsExecuted
      = os.countP (·.status = .success) := by
    rw [Execution.appendAll_eq]
    cases h <;> simp [close, Execution.closeCompleted, Execution.closeFailed, zero]
  refine ⟨⟨by rw [outcomes]; exact named, by rw [outcomes]; exact counted, ?_⟩, outcomes⟩
  rw [outcomes]
  cases h with
  | through all fine =>
      refine .inr ⟨all, fine, rfl, ?_⟩
      rw [Execution.appendAll_eq]
      exact silent
  | stopped before last said here fine failed why =>
      refine .inl ⟨before, last, said, here, fine, failed, why, rfl, ?_⟩
      simp [close, Execution.closeFailed, ActionOutcome.errorText?, why]

theorem Ended.goesOn {actions : List Action} {e : Execution} {os : List ActionOutcome}
    {p : Progress} (now : Instant) (h : Ended actions e os p) (fresh : e.outcomes = []) :
    e.GoesOn (close (e.appendAll os) now p) := by
  refine ⟨fresh, ?_⟩
  rw [Execution.appendAll_eq]
  cases h <;> rfl

/-- A loop that has ended is followed by the closing of its entry. -/
theorem Ended.conclude_run {actions : List Action} {e : Execution} {os : List ActionOutcome}
    {p : Progress} (h : Ended actions e os p) (workflowId : Uid) (w : World) :
    (conclude workflowId p).run w
      = (finish workflowId (close (e.appendAll os) w.clock p)).run w := by
  cases h with
  | through all fine => rw [conclude, Prog.run_ask_bind, World.answer_now, close]
  | stopped before last said here fine failed why =>
      rw [conclude, Prog.run_ask_bind, World.answer_now, close]

section

variable {settings : Settings} {workflow : Workflow} {trigger : Open TriggerKind}
  {context : Context} {triggeredBy : Option String} {w w' : World} {e : Execution}

theorem topLevel_stable (placed : ∀ a ∈ workflow.actions, a.position.isPlaced = true) :
    Amount.StableOrder Action.position (workflow.actions.filter (·.parentId.isNone))
      (topLevel workflow) :=
  (Amount.inOrder_stable placed).filter _

/-- A workflow of the first actions of a run goes through just these. -/
theorem topLevel_take (placed : ∀ a ∈ workflow.actions, a.position.isPlaced = true) (n : Nat) :
    topLevel { workflow with actions := (topLevel workflow).take n }
      = (topLevel workflow).take n := by
  have stable := topLevel_stable placed
  have kept : ∀ a ∈ (topLevel workflow).take n, a ∈ workflow.actions ∧ a.parentId.isNone = true :=
    fun a ha => List.mem_filter.mp (stable.perm.mem_iff.mp (List.mem_of_mem_take ha))
  have order : Action.inOrder ((topLevel workflow).take n) = (topLevel workflow).take n :=
    Amount.inOrder_of_rising (fun a ha => placed a (kept a ha).1)
      (stable.rising.sublist (List.take_sublist n _))
  show (Action.inOrder _).filter _ = _
  rw [order, List.filter_eq_self]
  exact fun a ha => (kept a ha).2

/-- What a run that comes to a value has done. -/
theorem audit_of_run_ok (placed : ∀ a ∈ workflow.actions, a.position.isPlaced = true)
    (h : (run settings workflow trigger context triggeredBy).run w = (.ok e, w')) :
    Audit (siteOf settings context workflow.id e.id) (topLevel workflow) e ∧ w'.store.Holds e ∧
      (run settings
        { workflow with actions := (topLevel workflow).take e.outcomes.length }
        trigger context triggeredBy).run w = (.ok e, w') := by
  obtain ⟨e₀, w₀, w₁, hopen, htold⟩ := opened_of_run_ok (congrArg Prod.fst h)
  obtain ⟨n, he₀, began⟩ := opened hopen
  have began₁ : w₁.store.Began e₀ := by
    have kept := began_answer (r := .emit .started e₀) (.inl rfl) began
    rwa [htold] at kept
  obtain ⟨p, w₂, hloop, halt⟩ :=
    runActions_run (siteOf settings context workflow.id e₀.id) (topLevel workflow) e₀ w₁
  have began₂ : w₂.store.Began e₀ := by
    have kept := (only_runActions (siteOf settings context workflow.id e₀.id)
      (topLevel workflow) e₀).run (fun w => w.store.Began e₀)
      (fun _ _ began allowed => began_answer allowed began) began₁
    rwa [hloop] at kept
  rw [run_of_opened hopen htold, Prog.run_bind_ok hloop] at h
  rcases halt with ⟨e', f, rfl⟩ | ⟨os, each, ended, same⟩
  · exact absurd (congrArg Prod.fst h) (abort_not_ok _ _)
  · have fresh : e₀.outcomes = [] := by rw [he₀, Execution.opening]
    have concluded := ended.conclude_run workflow.id w₂
    rw [concluded] at h
    obtain ⟨rfl, held⟩ := finish_ok e₀ (congrArg Prod.fst h)
    have goesOn := ended.goesOn w₂.clock fresh
    have stands := held goesOn began₂
    obtain ⟨audit, outcomes⟩ := ended.audit w₂.clock each fresh
      (by rw [he₀, Execution.opening]) (by rw [he₀, Execution.opening])
    rw [h] at stands
    rw [goesOn.id, outcomes]
    refine ⟨audit, stands, ?_⟩
    have opens : (run settings
          { workflow with actions := (topLevel workflow).take os.length }
          trigger context triggeredBy).run w
        = (runActions (siteOf settings context workflow.id e₀.id)
            (topLevel { workflow with actions := (topLevel workflow).take os.length }) e₀
            >>= conclude workflow.id).run w₁ := run_of_opened hopen htold
    rw [opens, topLevel_take placed]
    exact (Prog.run_bind_ok same).trans (concluded.trans h)

end

/-! ## Coming to a value

A run cannot fail but where something that it calls fails: the store, the bus,
or the runner that is entered for an action. -/

/-- The sites whose failure ends a run. -/
def sites : List String := [
  "store.create_execution", "bus.execution.started", "runner.execute",
  "store.finish_execution", "store.record_workflow_run", "bus.execution.completed",
  "bus.execution.failed"]

/-- The store is in memory, and nothing is in store that ends a run. -/
def Willing (w : World) : Prop :=
  w.store.isMemory = true ∧ ∀ site ∈ sites, w.Spares site

section

variable {w : World}

theorem Willing.answer (h : Willing w) (r : Request) : Willing (w.answer r).2 :=
  ⟨(w.isMemory_answer r).trans h.1, fun site mem => (h.2 site mem).answer r⟩

theorem Willing.run {α : Type} (h : Willing w) (p : Prog α) : Willing (p.run w).2 :=
  Prog.run_keeps Willing (fun _ r h => h.answer r) p h

theorem Willing.of_answer {w' : World} {r : Request} {x : Except Failure r.Answer}
    (h : Willing w) (answered : w.answer r = (x, w')) : Willing w' := by
  have kept := h.answer r
  rwa [answered] at kept

theorem Willing.of_run {α : Type} {w' : World} {p : Prog α} {x : Except Failure α}
    (h : Willing w) (ran : p.run w = (x, w')) : Willing w' := by
  have kept := h.run p
  rwa [ran] at kept

theorem Willing.perform (h : Willing w) {r : Request} {site : String} (at_ : r.site? = some site)
    (mem : site ∈ sites) (addressed : w.isAddressed r = true)
    (reachable : w.unreachable? r = none) : w.answer r = w.perform r :=
  World.answer_of_spared at_ (h.2 site mem) addressed reachable

theorem Willing.openExecution (h : Willing w) (e : Execution) :
    ∃ e₀ w', w.answer (.openExecution e) = (.ok e₀, w') := by
  obtain ⟨m, memory⟩ := Store.memory_of_isMemory h.1
  rw [h.perform rfl (by decide) rfl rfl]
  simp only [World.perform, World.storing, memory]
  exact ⟨_, _, rfl⟩

theorem Willing.emit (h : Willing w) (event : RunEvent) (e : Execution) :
    ∃ w', w.answer (.emit event e) = (.ok (), w') := by
  cases bus : w.hasBus with
  | false => exact ⟨w, by simp [World.answer, World.isAddressed, bus, World.unaddressed]⟩
  | true =>
      have at_ : ("bus." ++ event.text) ∈ sites := by cases event <;> decide
      exact ⟨_, h.perform rfl at_ bus rfl⟩

theorem Willing.execute (h : Willing w) (site : Site) (a : Action) :
    ∃ o w', (Runner.execute site a).run w = (.ok o, w') := by
  have entered := h.perform (r := .enterRunner) rfl (by decide) rfl rfl
  rw [Runner.execute, Prog.run_ask_bind, entered]
  cases a.kind with
  | foreign word => exact ⟨_, _, rfl⟩
  | known kind =>
      simp only [World.perform, Prog.run_attempt_bind]
      generalize Prog.run _ w = ended
      obtain ⟨ended, w'⟩ := ended
      cases ended with
      | ok x => exact ⟨_, w', rfl⟩
      | error f => exact ⟨_, _, rfl⟩

/-- The loop over the actions does not stop without having to. -/
theorem Willing.runActions (site : Site) (actions : List Action) (e : Execution) (h : Willing w) :
    ∃ p w', (Run.runActions site actions e).run w = (.ok p, w') ∧ ∀ e' f, p ≠ .raised e' f := by
  induction actions generalizing e w with
  | nil => exact ⟨_, w, rfl, fun _ _ => Progress.noConfusion⟩
  | cons a actions ih =>
      obtain ⟨o, w₁, came⟩ := h.execute site a
      have willing : Willing w₁ := h.of_run came
      rw [Run.runActions, Prog.run_attempt_bind, came]
      by_cases failed : o.status = .failed
      · simp only [failed, if_true]
        exact ⟨_, w₁, rfl, fun _ _ => Progress.noConfusion⟩
      · simp only [failed, if_false]
        exact ih _ (willing.answer (.publishExecution (e.append o)))

theorem Willing.finish (h : Willing w) (workflowId : Uid) (e : Execution) :
    ∃ w', (Run.finish workflowId e).run w = (.ok e, w') := by
  have h₁ := h.answer (.publishExecution e)
  rw [World.answer_publishExecution] at h₁
  have closes : ∃ x w₂, (w.withStore (w.store.publishExecution e)).answer (.finishExecution e)
      = (.ok x, w₂) := by
    obtain ⟨m, memory⟩ := Store.memory_of_isMemory h₁.1
    rw [h₁.perform rfl (by decide) rfl rfl]
    simp only [World.perform, World.storing]
    rw [memory]
    exact ⟨_, _, rfl⟩
  obtain ⟨x, w₂, closes⟩ := closes
  have h₂ : Willing w₂ := h₁.of_answer closes
  have counts := h₂.perform (r := .recordRun workflowId (e.completedAt.getD default)) rfl
    (by decide) rfl rfl
  have h₃ := h₂.of_answer counts
  obtain ⟨w', told⟩ := (h₃.answer (.log (runFinished workflowId e))).emit
    (if e.isCompleted then .completed else .failed) e
  refine ⟨w', ?_⟩
  rw [finish_run, closes]
  show (tally workflowId e).run w₂ = _
  rw [tally, Prog.run_ask_bind, counts]
  show Prog.run (ask _ >>= _) _ = _
  rw [Prog.run_ask_bind, World.answer_log]
  exact run_bind_ok ((Prog.run_ask _ _).trans told)

/-- Where the store is in memory and nothing that ends a run is in store, a run comes to a
value. -/
theorem Willing.run_ok (h : Willing w) (settings : Settings) (workflow : Workflow)
    (trigger : Open TriggerKind) (context : Context) (triggeredBy : Option String) :
    ∃ e w', (Run.run settings workflow trigger context triggeredBy).run w = (.ok e, w') := by
  obtain ⟨e₀, w₀, hopen⟩ :=
    h.openExecution (Execution.opening workflow trigger context triggeredBy w.clock)
  obtain ⟨w₁, htold⟩ := (h.of_answer hopen).emit .started e₀
  have h₁ := (h.of_answer hopen).of_answer htold
  obtain ⟨p, w₂, loops, keepsOn⟩ :=
    h₁.runActions (siteOf settings context workflow.id e₀.id) (topLevel workflow) e₀
  have h₂ : Willing w₂ := h₁.of_run loops
  rw [run_of_opened hopen htold, run_bind_ok loops]
  cases p with
  | raised e f => exact absurd rfl (keepsOn e f)
  | stopped e error =>
      rw [conclude, Prog.run_ask_bind, World.answer_now]
      exact ⟨_, h₂.finish workflow.id (e.closeFailed error w₂.clock)⟩
  | through e =>
      rw [conclude, Prog.run_ask_bind, World.answer_now]
      exact ⟨_, h₂.finish workflow.id (e.closeCompleted w₂.clock)⟩

end

/-! ## The theorem -/

/-- A run stops at the first failure.  It goes through the actions that are no child of a branch
in the stable order of their positions; it comes to a value unless something ends it that it
calls; and a run that comes to a value is audited by it, leaves it in the store, and does to the
world just what a run of the actions in the audit alone does. -/
theorem run_stops_at_first_failure (settings : Settings) (workflow : Workflow)
    (trigger : Open TriggerKind) (context : Context) (triggeredBy : Option String) (w : World)
    (placed : ∀ a ∈ workflow.actions, a.position.isPlaced = true) :
    Amount.StableOrder Action.position (workflow.actions.filter (·.parentId.isNone))
        (topLevel workflow) ∧
      (Willing w → ∃ e w', (run settings workflow trigger context triggeredBy).run w
        = (.ok e, w')) ∧
      ∀ e w', (run settings workflow trigger context triggeredBy).run w = (.ok e, w') →
        Audit (siteOf settings context workflow.id e.id) (topLevel workflow) e ∧
          w'.store.Holds e ∧
          (run settings
            { workflow with actions := (topLevel workflow).take e.outcomes.length }
            trigger context triggeredBy).run w = (.ok e, w') :=
  ⟨topLevel_stable placed, fun willing => willing.run_ok settings workflow trigger context
    triggeredBy, fun _ _ h => audit_of_run_ok placed h⟩

/-- A delay, and behind it a write to a record. -/
def delayedWrite : Workflow where
  id := ⟨7⟩
  entityType := "deal"
  actions := [
    { id := ⟨1⟩, kind := .known .updateField, position := .whole 2,
      config := .record [("field", .text "stage"), ("value", .text "won")] },
    { id := ⟨2⟩, kind := .known .waitDelay, position := .whole 1 }]

theorem delayedWrite_stops :
    (∀ a ∈ delayedWrite.actions, a.position.isPlaced = true) ∧ Willing {} ∧
      ∃ e w', (run {} delayedWrite (.known .manual) { entityType := "deal", entityId := "d" }
          none).run {} = (.ok e, w') ∧
        Audit (siteOf {} { entityType := "deal", entityId := "d" } delayedWrite.id e.id)
          (topLevel delayedWrite) e ∧
        w'.store.Holds e := by
  have placed : ∀ a ∈ delayedWrite.actions, a.position.isPlaced = true := by decide
  have willing : Willing {} := ⟨rfl, fun _ _ => List.not_mem_nil⟩
  have stops := run_stops_at_first_failure {} delayedWrite (.known .manual)
    { entityType := "deal", entityId := "d" } none {} placed
  obtain ⟨e, w', ran⟩ := stops.2.1 willing
  exact ⟨placed, willing, e, w', ran, (stops.2.2 e w' ran).1, (stops.2.2 e w' ran).2.1⟩

end Run
end RecordFlow
