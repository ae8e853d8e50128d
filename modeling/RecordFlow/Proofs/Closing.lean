/-
# Closing — how the entry of a run is closed, and when it is left open

Whatever the loop over its actions comes to, a run shows its entry closed and has
the store keep it.  An entry in memory is shared with the run, so there it is
closed even if the store refuses to keep it; of a table it has to be known that
the end is not refused.  This is `conclude_shut`.

The bus is told when a run starts and when it has ended, and may fail at each of
these.  When it is told of the end, the entry has been closed.  But a run tells of
its start before it is ready to catch a failure: where the start is not heard, the
entry stays as it was opened.  No other failure of the bus leaves a run open:
`open_only_if_unheard`.
-/
import RecordFlow.Proofs.Course
import RecordFlow.Proofs.Effects
import RecordFlow.Proofs.FailStop

namespace RecordFlow

/-- Has the store keep how a run has ended. -/
def Request.keepsEnd : Request → Bool
  | finishExecution _ => true
  | _ => false

namespace Prog

variable {α β : Type} {vital : Request → Bool}

/-- A composed program is served where its first part is, and the rest from there on. -/
theorem isServed_bind (m : Prog α) (rest : α → Prog β) (w : World) :
    (m >>= rest).isServed vital w = (m.isServed vital w && match m.run w with
      | (.ok a, w') => (rest a).isServed vital w'
      | (.error _, _) => true) := by
  show (m.bind rest).isServed vital w = _
  induction m generalizing w with
  | done a => rfl
  | fail f => rfl
  | call r branch ih =>
      show (_ && _) = _
      rw [ih, ← Bool.and_assoc]
      rfl

/-- Where a program is served, so is what is left of it. -/
theorem isServed_rest {m : Prog α} {rest : α → Prog β} {w w' : World} {a : α}
    (served : (m >>= rest).isServed vital w = true) (ran : m.run w = (.ok a, w')) :
    (rest a).isServed vital w' = true := by
  rw [isServed_bind, ran] at served
  exact (Bool.and_eq_true_iff.mp served).2

/-- What is served is answered. -/
theorem answered_of_isServed {r : Request} {rest : r.Answer → Prog β} {w : World}
    (served : (ask r >>= rest).isServed vital w = true) (is : vital r = true) :
    ∃ a w', w.answer r = (.ok a, w') := by
  have ok : (w.answer r).1.isOk = true := by
    simpa [is] using (Bool.and_eq_true_iff.mp served).1
  cases answered : w.answer r with
  | mk x w' =>
      rw [answered] at ok
      cases x with
      | error f => cases ok
      | ok a => exact ⟨a, w', rfl⟩

end Prog

/-! ## Entries that go on -/

namespace Execution.GoesOn

variable {e₀ e : Execution}

theorem refl (fresh : e₀.outcomes = []) : e₀.GoesOn e₀ := ⟨fresh, rfl⟩

theorem append (h : e₀.GoesOn e) (o : ActionOutcome) : e₀.GoesOn (e.append o) :=
  ⟨h.fresh, by rw [Execution.append, h.same]⟩

theorem closeFailed (h : e₀.GoesOn e) (said : Option String) (now : Instant) :
    e₀.GoesOn (e.closeFailed said now) :=
  ⟨h.fresh, by rw [Execution.closeFailed, h.same]⟩

theorem closeCompleted (h : e₀.GoesOn e) (now : Instant) : e₀.GoesOn (e.closeCompleted now) :=
  ⟨h.fresh, by rw [Execution.closeCompleted, h.same]⟩

end Execution.GoesOn

/-- The row of an entry that says nothing of an end shows the entry. -/
theorem ExecutionRow.shows_ofExecution {e : Execution} {row : ExecutionRow}
    (written : ofExecution e = .ok row) (silent : e.errorMessage = none)
    (under : e.completedAt = none) : row.Shows e := by
  obtain ⟨doc, hdoc, written⟩ := ok_of_bind_ok written
  obtain ⟨count, hcount, written⟩ := ok_of_bind_ok written
  obtain rfl := Except.ok.inj written
  obtain rfl := whole_ok hcount
  exact ⟨rfl, rfl, rfl, rfl, rfl, rfl, rfl, rfl, hdoc, silent.symm, rfl, by rw [under]; rfl⟩

/-- An entry that is opened stands in the store. -/
theorem Store.holds_of_createExecution {s s' : Store} {e : Execution}
    (created : s.createExecution e = (.ok (), s')) (silent : e.errorMessage = none)
    (under : e.completedAt = none) : s'.Holds e := by
  have began := Store.began_of_createExecution created
  cases s with
  | memory m =>
      obtain rfl := congrArg Prod.snd created
      show Keyed.find? Execution.id e.id (Keyed.put Execution.id e m.executions) = some e
      rw [Keyed.find?_put, if_pos rfl]
  | relational r =>
      obtain rfl := congrArg Prod.snd created
      obtain ⟨row, there, written⟩ := began
      exact ⟨row, there, ExecutionRow.shows_ofExecution written silent under⟩

namespace Run

open Prog (ask run_bind_ok run_bind_error isAside_bind isAside_ask)
open Runner (Site)
open Accounting (entryOf)

/-- Whatever the loop over the actions comes to, the entry has gone on. -/
theorem runActions_goesOn (site : Site) (actions : List Action) {e₀ e : Execution} (w : World)
    (goesOn : e₀.GoesOn e) :
    ∃ p w', (runActions site actions e).run w = (.ok p, w') ∧ e₀.GoesOn (entryOf p) := by
  induction actions generalizing e w with
  | nil => exact ⟨_, w, rfl, goesOn⟩
  | cons a actions ih =>
      rw [runActions, Prog.run_attempt_bind]
      cases (Runner.execute site a).run w with
      | mk x w₁ =>
          cases x with
          | error f => exact ⟨_, w₁, rfl, goesOn⟩
          | ok o =>
              show ∃ p w', Prog.run (if o.status = .failed then _ else _) w₁ = _ ∧ _
              split
              · exact ⟨_, w₁, rfl, goesOn.append o⟩
              · rw [Prog.run_ask_bind, World.answer_publishExecution]
                exact ih _ (goesOn.append o)

/-! ## Entries in memory -/

/-- Executions are kept in memory, one with this identifier among them. -/
def Keeps (id : RecordId) (s : Store) : Prop :=
  ∃ es, s.table = .inl es ∧ id ∈ es.map Execution.id

namespace Keeps

variable {id : RecordId} {e : Execution} {s s' : Store}

theorem of_table (same : s'.table = s.table) (h : Keeps id s) : Keeps id s' := by
  rwa [Keeps, same]

theorem publishExecution (h : Keeps id s) (e : Execution) : Keeps id (s.publishExecution e) := by
  obtain ⟨es, table, mem⟩ := h
  obtain ⟨m, rfl, rfl⟩ := Store.memory_of_table table
  refine ⟨_, rfl, ?_⟩
  rwa [map_modify_kept fun _ _ same => same.symm]

theorem of_createExecution (memory : s.isMemory = true)
    (created : s.createExecution e = (.ok (), s')) : Keeps e.id s' := by
  obtain ⟨m, rfl⟩ := Store.memory_of_isMemory memory
  obtain rfl := congrArg Prod.snd created
  refine ⟨_, rfl, ?_⟩
  by_contra absent
  have none : Keyed.find? Execution.id e.id (Keyed.put Execution.id e m.executions) = none :=
    Keyed.find?_eq_none_iff.mpr absent
  rw [Keyed.find?_put, if_pos rfl] at none
  cases none

/-- An entry that is kept stands in the store as it was shown. -/
theorem holds (h : Keeps e.id s) : (s.publishExecution e).Holds e := by
  obtain ⟨es, table, mem⟩ := h
  obtain ⟨m, rfl, rfl⟩ := Store.memory_of_table table
  obtain ⟨e₀, found⟩ := Option.ne_none_iff_exists'.mp fun none =>
    Keyed.find?_eq_none_iff.mp none mem
  exact find?_modify found rfl

end Keeps

/-- An entry that stands in memory stands there also when it was to be stored. -/
theorem holds_finishExecution {e : Execution} {w : World} (memory : w.store.isMemory = true)
    (holds : w.store.Holds e) : (w.answer (.finishExecution e)).2.store.Holds e := by
  obtain ⟨m, hm⟩ := Store.memory_of_isMemory memory
  rcases w.answer_cases (.finishExecution e) with ⟨_, h⟩ | ⟨f, faults, h⟩ | ⟨faults, h⟩
  · rw [h]
    exact holds
  · rw [h]
    exact holds
  · rw [h]
    simp only [World.perform, World.storing, hm]
    show Keyed.find? Execution.id e.id (Keyed.put Execution.id e m.executions) = some e
    rw [Keyed.find?_put, if_pos rfl]

theorem Keeps.answer {id : RecordId} {w : World} {r : Request} (kept : Keeps id w.store)
    (allowed : r.isAside = true ∨ ∃ e, r = .publishExecution e) :
    Keeps id (w.answer r).2.store := by
  rcases allowed with aside | ⟨e, rfl⟩
  · exact kept.of_table (World.aside_answer w aside).table
  · exact kept.publishExecution e

theorem Keeps.runActions {id : RecordId} {w : World} (kept : Keeps id w.store) (site : Site)
    (actions : List Action) (e : Execution) :
    Keeps id ((runActions site actions e).run w).2.store :=
  (only_runActions site actions e).run (fun w => Keeps id w.store)
    (fun _ _ kept allowed => kept.answer allowed) kept

/-! ## Closing -/

/-- What a program needs of the store to close an entry: the entry is in memory, or there is the
row that it began as and its end is not refused. -/
def Retains (e : Execution) {α : Type} (m : Prog α) (w : World) : Prop :=
  Keeps e.id w.store ∨
    ∃ e₀, e₀.GoesOn e ∧ w.store.Began e₀ ∧ m.isServed Request.keepsEnd w = true

namespace Retains

variable {α : Type} {e : Execution} {m : Prog α} {w w' : World}

theorem goesOn (retains : Retains e m w) (e' : Execution) (id : e'.id = e.id)
    (further : ∀ e₀ : Execution, e₀.GoesOn e → e₀.GoesOn e') : Retains e' m w := by
  refine retains.imp (fun kept => id ▸ kept) ?_
  rintro ⟨e₀, goesOn, row⟩
  exact ⟨e₀, further e₀ goesOn, row⟩

/-- What is aside takes nothing from the store. -/
theorem after {r : Request} {rest : r.Answer → Prog α} {a : r.Answer}
    (retains : Retains e (ask r >>= rest) w) (aside : r.isAside = true)
    (answered : w.answer r = (.ok a, w')) : Retains e (rest a) w' := by
  have same := World.aside_answer w aside
  rw [answered] at same
  refine retains.imp (fun kept => kept.of_table same.table) ?_
  rintro ⟨e₀, goesOn, began, served⟩
  exact ⟨e₀, goesOn, began.of_table same.table,
    Prog.isServed_rest served ((Prog.run_ask r w).trans answered)⟩

end Retains

/-- An entry is shown closed and stored, and something follows. -/
def settle {α : Type} (e : Execution) (rest : Prog α) : Prog α := do
  ask (.publishExecution e)
  let _ ← ask (.finishExecution e)
  rest

/-- An entry that is shown and stored stands in memory afterwards, also where it cannot be
stored. -/
theorem settle_holds_of_keeps {α : Type} {e : Execution} {w : World} (kept : Keeps e.id w.store)
    {rest : Prog α} (aside : rest.IsAside) : ((settle e rest).run w).2.store.Holds e := by
  have memory : (w.store.publishExecution e).isMemory = true := by
    obtain ⟨es, table, -⟩ := kept.publishExecution e
    rw [Store.isMemory, table]
    rfl
  have stored := holds_finishExecution (w := w.withStore (w.store.publishExecution e)) memory
    kept.holds
  rw [settle, run_bind_ok (a := ()) ((Prog.run_ask ..).trans (World.answer_publishExecution w e)),
    Prog.run_bind, Prog.run_ask]
  split
  · rename_i x w' answered
    rw [answered] at stored
    exact .of_table (aside.run w').table stored
  · rename_i f w' answered
    rwa [answered] at stored

/-- An entry that is shown and stored stands in the store afterwards. -/
theorem settle_holds {α : Type} {e : Execution} {rest : Prog α} {w : World}
    (retains : Retains e (settle e rest) w) (aside : rest.IsAside) :
    ((settle e rest).run w).2.store.Holds e := by
  rcases retains with kept | ⟨e₀, goesOn, began, served⟩
  · exact settle_holds_of_keeps kept aside
  · have shown : (ask (.publishExecution e)).run w
        = (.ok (), w.withStore (w.store.publishExecution e)) := by
      rw [Prog.run_ask, World.answer_publishExecution]
    have asks := Prog.isServed_rest served shown
    obtain ⟨x, w', finished⟩ := Prog.answered_of_isServed asks rfl
    rw [settle, run_bind_ok shown, run_bind_ok ((Prog.run_ask _ _).trans finished)]
    have holds := Store.holds_of_finishExecution (World.closeExecution_ok finished) goesOn
      (began.publishExecution e)
    exact holds.of_table (aside.run w').table

/-- Whatever comes of the end of a run, its entry stands in the store, closed, with the outcomes
that the loop has left. -/
theorem conclude_shut {p : Progress} {w : World} (workflowId : Uid)
    (retains : Retains (entryOf p) (conclude workflowId p) w) :
    ∃ e, ((conclude workflowId p).run w).2.store.Holds e ∧ e.id = (entryOf p).id ∧
      e.outcomes = (entryOf p).outcomes ∧ e.IsShut := by
  cases p with
  | through e =>
      have ready := (retains.after rfl (World.answer_now w)).goesOn (e.closeCompleted w.clock) rfl
        fun _ goesOn => goesOn.closeCompleted w.clock
      rw [conclude, Prog.run_ask_bind, World.answer_now]
      exact ⟨_, settle_holds ready (isAside_tally workflowId _), rfl, rfl,
        e.isShut_closeCompleted w.clock⟩
  | stopped e said =>
      have ready := (retains.after rfl (World.answer_now w)).goesOn (e.closeFailed said w.clock) rfl
        fun _ goesOn => goesOn.closeFailed said w.clock
      rw [conclude, Prog.run_ask_bind, World.answer_now]
      exact ⟨_, settle_holds ready (isAside_tally workflowId _), rfl, rfl,
        e.isShut_closeFailed said w.clock⟩
  | raised e f =>
      have logged := retains.after rfl (World.answer_log w (runRaised workflowId e f))
      have ready := (logged.after rfl (World.answer_now _)).goesOn
        (e.closeFailed (some f.report) w.clock) rfl fun _ goesOn => goesOn.closeFailed _ _
      have told : (do
          ask (.emit .failed (e.closeFailed (some f.report) w.clock))
          Prog.fail f : Prog Execution).IsAside := isAside_bind (isAside_ask rfl) fun _ => trivial
      rw [conclude, abort, Prog.run_ask_bind, World.answer_log]
      exact ⟨_, settle_holds ready told, rfl, rfl, e.isShut_closeFailed _ w.clock⟩

/-! ## The theorem -/

section

variable {settings : Settings} {workflow : Workflow} {trigger : Open TriggerKind}
  {context : Context} {triggeredBy : Option String} {w w₀ w₁ : World} {e₀ : Execution} {f : Failure}

/-- A run whose start is not heard fails at once. -/
theorem run_of_unheard
    (opens : w.answer (.openExecution
      (Execution.opening workflow trigger context triggeredBy w.clock)) = (.ok e₀, w₀))
    (unheard : w₀.answer (.emit .started e₀) = (.error f, w₁)) :
    (run settings workflow trigger context triggeredBy).run w = (.error f, w₁) := by
  refine (run_bind_ok (Prog.run_ask .now w)).trans ?_
  refine (run_bind_ok ((Prog.run_ask _ _).trans opens)).trans ?_
  exact run_bind_error ((Prog.run_ask _ _).trans unheard)

/-- A run whose start is heard is able to close its entry behind its loop over the actions. -/
theorem retains_of_looped {p : Progress} {w₂ : World}
    (opens : w.answer (.openExecution
      (Execution.opening workflow trigger context triggeredBy w.clock)) = (.ok e₀, w₀))
    (heard : w₀.answer (.emit .started e₀) = (.ok (), w₁))
    (kept : w.store.isMemory = true ∨
      (run settings workflow trigger context triggeredBy).isServed Request.keepsEnd w = true)
    (looped : (runActions (siteOf settings context workflow.id e₀.id) (topLevel workflow) e₀).run w₁
      = (.ok p, w₂)) (goesOn : e₀.GoesOn (entryOf p)) :
    Retains (entryOf p) (conclude workflow.id p) w₂ := by
  have told := World.aside_answer w₀ (r := .emit .started e₀) rfl
  rw [heard] at told
  refine kept.imp ?_ ?_
  · intro memory
    have kept := (Keeps.of_createExecution memory (World.openExecution_ok opens).2).of_table
      told.table
    have still := kept.runActions (siteOf settings context workflow.id e₀.id) (topLevel workflow) e₀
    rw [looped] at still
    exact goesOn.id ▸ still
  · intro served
    obtain ⟨-, -, began⟩ := opened opens
    have still := (only_runActions (siteOf settings context workflow.id e₀.id) (topLevel workflow)
      e₀).run (fun w => w.store.Began e₀) (fun _ _ began allowed => began_answer allowed began)
      (began.of_table told.table)
    rw [looped] at still
    have timed := Prog.isServed_rest served (Prog.run_ask .now w)
    have written := Prog.isServed_rest timed ((Prog.run_ask _ _).trans opens)
    have goesThrough := Prog.isServed_rest written ((Prog.run_ask _ _).trans heard)
    exact ⟨e₀, goesOn, still, Prog.isServed_rest goesThrough looped⟩

end

/-- A failing bus leaves a run open only if it does not hear of the start: then the run fails and
its entry stands as it was opened.  Else the entry has been closed, whatever the run comes to and
whatever fails on its way, provided that the entries are in memory, or that the store does not
refuse the end. -/
theorem open_only_if_unheard (settings : Settings) (workflow : Workflow)
    (trigger : Open TriggerKind) (context : Context) (triggeredBy : Option String) {w w₀ : World}
    {e₀ : Execution}
    (opens : w.answer (.openExecution
      (Execution.opening workflow trigger context triggeredBy w.clock)) = (.ok e₀, w₀))
    (kept : w.store.isMemory = true ∨
      (run settings workflow trigger context triggeredBy).isServed Request.keepsEnd w = true) :
    ∃ e, ((run settings workflow trigger context triggeredBy).run w).2.store.Holds e ∧
      e.id = e₀.id ∧
      ((w₀.answer (.emit .started e₀)).1 = .ok () → e.IsShut) ∧
      ∀ f, (w₀.answer (.emit .started e₀)).1 = .error f →
        ((run settings workflow trigger context triggeredBy).run w).1 = .error f ∧ e = e₀ ∧
          e.status = .known .running ∧ e.completedAt = none := by
  obtain ⟨n, fresh, -⟩ := opened opens
  cases told : w₀.answer (.emit .started e₀) with
  | mk x w₁ =>
      cases x with
      | error f =>
          have created := Store.holds_of_createExecution (World.openExecution_ok opens).2
            (by rw [fresh, Execution.opening]) (by rw [fresh, Execution.opening])
          have same := World.aside_answer w₀ (r := .emit .started e₀) rfl
          rw [told] at same
          rw [run_of_unheard opens told]
          refine ⟨e₀, created.of_table same.table, rfl, ?_, ?_⟩
          · intro heard
            cases heard
          · intro _ unheard
            cases unheard
            exact ⟨rfl, rfl, by rw [fresh, Execution.opening], by rw [fresh, Execution.opening]⟩
      | ok _ =>
          have bare : e₀.outcomes = [] := by rw [fresh, Execution.opening]
          obtain ⟨p, w₂, looped, goesOn⟩ := runActions_goesOn
            (siteOf settings context workflow.id e₀.id) (topLevel workflow) w₁ (.refl bare)
          obtain ⟨e, holds, id, -, shut⟩ :=
            conclude_shut workflow.id (retains_of_looped opens told kept looped goesOn)
          rw [run_of_opened opens told, run_bind_ok looped]
          refine ⟨e, holds, id.trans goesOn.id, fun _ => shut, ?_⟩
          intro _ unheard
          cases unheard

/-- A bus is connected that fails to be told of an event, once. -/
def deafTo (event : RunEvent) : World where
  hasBus := true
  faults := [{ site := "bus." ++ event.text, failure := .reported "RuntimeError" "bus down" }]

/-- The greeting is run by hand for the new deal. -/
def greetByHand : Prog Execution := run {} greeting.record (.known .manual) newDeal none

/-- The entry of the greeting as it is opened. -/
def openedGreeting : Execution :=
  { Execution.opening greeting.record (.known .manual) newDeal none default with id := .issued 1 }

/-- The entry of the greeting is opened in a world in memory. -/
def OpensGreeting (w : World) : Prop :=
  w.store.isMemory = true ∧ ∃ w₀, w.answer (.openExecution
    (Execution.opening greeting.record (.known .manual) newDeal none w.clock))
      = (.ok openedGreeting, w₀)

/-- Whether it is the start or the end that is not heard, the run fails; its entry is left open in
the one case, and closed in the other. -/
theorem greeting_unheard :
    (OpensGreeting (deafTo .started) ∧ (greetByHand.run (deafTo .started)).1.isOk = false ∧
      ∃ e, (greetByHand.run (deafTo .started)).2.store.Holds e ∧ e.status = .known .running) ∧
    OpensGreeting (deafTo .completed) ∧ (greetByHand.run (deafTo .completed)).1.isOk = false ∧
      ∃ e, (greetByHand.run (deafTo .completed)).2.store.Holds e ∧ e.IsShut := by
  refine ⟨⟨⟨rfl, _, rfl⟩, by decide +kernel, ?_⟩, ⟨rfl, _, rfl⟩, by decide +kernel, ?_⟩
  · obtain ⟨e, holds, -, -, left⟩ := open_only_if_unheard {} greeting.record (.known .manual)
      newDeal none (w := deafTo .started) rfl (.inl rfl)
    exact ⟨e, holds, (left _ rfl).2.2.1⟩
  · obtain ⟨e, holds, -, shut, -⟩ := open_only_if_unheard {} greeting.record (.known .manual)
      newDeal none (w := deafTo .completed) rfl (.inl rfl)
    exact ⟨e, holds, shut rfl⟩

end Run
end RecordFlow
