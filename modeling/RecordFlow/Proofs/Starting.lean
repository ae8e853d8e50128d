/-
# Starting — what a dispatch starts, and what comes of it

In a store that keeps everything in memory, a dispatch starts the workflows
that are called by the change and free to run, in the stable order of their
runs, and each of them leaves one execution when the background has been
carried to its end.  It goes so far as the triggers of the listed workflows can
be evaluated.  A workflow that is run once is free to run when its key is not
claimed and no run of it is completed; as long as it is run once all along, its
key is claimed just while a run of it has not ended.  A run that was started
before is not seen: `greeting_started_beside_waiting`.

What a run does beside its execution is not told here.
-/
import RecordFlow.Proofs.Drain
import RecordFlow.Proofs.RunOnce

namespace RecordFlow

namespace Dispatch

variable {kind : Open TriggerKind} {context : Context} {w : World} {m : MemoryStore}

/-- Whether a workflow is called by a change: it is active, for the kind of the record, and one of
its triggers is fired. -/
def isCalled (kind : Open TriggerKind) (context : Context) (v : Workflow) : Bool :=
  v.isActive && v.entityType = context.entityType && v.triggers.any (·.isFired kind context)

/-- A world whose store is in memory and can be asked, as the engine leaves it. -/
structure Ready (w : World) (m : MemoryStore) : Prop where
  memory : w.store = .memory m
  once : (m.workflows.map MemoryStore.workflowKey).Nodup
  placed : ∀ v ∈ m.workflows, v.record.runOrder.isPlaced = true
  issued : ∀ e ∈ m.executions, ∀ n, e.id = .issued n → n ≤ w.issued
  sound : ∀ q ∈ w.waiting, q.IsSound
  listing : w.Spares "store.list_active_workflows"
  ledger : w.Spares "store.has_completed_execution"
  entries : w.Spares "store.create_execution"

/-- It can be told of every workflow that is listed whether it is eligible. -/
def Told (kind : Open TriggerKind) (context : Context) (m : MemoryStore) : Prop :=
  ∀ v ∈ m.workflows, MemoryStore.isCandidate context.entityType kind v.record = true →
    ∃ b, v.record.isEligible kind context = .ok b

/-- Whether a dispatch comes to a workflow: it can be told of it, and of all that are listed before
it, whether they are eligible. -/
def isReached (kind : Open TriggerKind) (context : Context) (m : MemoryStore) (v : Filed Workflow) :
    Bool :=
  v.record.id ∈ ((m.listActive context.entityType kind).takeWhile (tells kind context)).map
    (·.record.id)

/-- A workflow that is called is listed. -/
theorem isCandidate_of_isCalled {v : Workflow} (called : isCalled kind context v = true) :
    MemoryStore.isCandidate context.entityType kind v = true := by
  simp only [isCalled, Bool.and_eq_true] at called
  obtain ⟨⟨active, same⟩, fired⟩ := called
  simp [MemoryStore.isCandidate, active, same, Trigger.hasTrigger_of_isFired fired]

/-- Of the workflows of which it can be told, those that are listed and selected are those that
are called and free. -/
theorem isCandidate_and_selects {v : Filed Workflow} (told : tells kind context v = true) :
    (selects kind context w v && MemoryStore.isCandidate context.entityType kind v.record)
      = (isCalled kind context v.record && isFree context w v) := by
  obtain ⟨b, eligible⟩ := tells_iff.mp told
  have fired := Trigger.anyFires_ok eligible
  cases candidate : MemoryStore.isCandidate context.entityType kind v.record with
  | true =>
      simp only [MemoryStore.isCandidate, Bool.and_eq_true] at candidate
      simp [selects, fires, eligible, isCalled, candidate.1.1, candidate.1.2, ← fired]
  | false =>
      cases called : isCalled kind context v.record with
      | false => simp
      | true => exact Bool.noConfusion (candidate.symm.trans (isCandidate_of_isCalled called))

/-- Of a list whose items have a key each, the items with a key of its front part are this part. -/
theorem filter_mem_front {α β : Type} [DecidableEq β] {front back : List α} (key : α → β)
    (once : ((front ++ back).map key).Nodup) :
    (front ++ back).filter (fun x => key x ∈ front.map key) = front := by
  rw [List.map_append, List.nodup_append] at once
  have all : front.filter (fun x => key x ∈ front.map key) = front :=
    List.filter_eq_self.mpr fun x mem => decide_eq_true (List.mem_map_of_mem mem)
  have none : back.filter (fun x => key x ∈ front.map key) = [] :=
    List.filter_eq_nil_iff.mpr fun x mem here =>
      once.2.2 _ (of_decide_eq_true here) _ (List.mem_map_of_mem mem) rfl
  rw [List.filter_append, all, none, List.append_nil]

/-- The runs that wait where workflows were started. -/
theorem waiting_started (kind : Open TriggerKind) (context : Context) (w : World)
    (vs : List (Filed Workflow)) (logs : List LogEntry) :
    (started kind context w vs logs).waiting
      = w.waiting ++ vs.map fun v => (runOf kind context v).outline := by
  simp [World.waiting, started, Background.run?, List.filterMap_map, Function.comp_def]

namespace Ready

theorem ids_nodup (ready : Ready w m) (kind : Open TriggerKind) (context : Context) :
    ((m.listActive context.entityType kind).map (·.record.id)).Nodup := by
  have perm := (listActive_stable kind context ready.placed).perm
  exact (perm.map _).nodup_iff.mpr (ready.once.sublist (List.filter_sublist.map _))

/-- The workflows of the listing that are reached are its front, up to the first of which it cannot
be told. -/
theorem filter_isReached (ready : Ready w m) (kind : Open TriggerKind) (context : Context) :
    (m.listActive context.entityType kind).filter (isReached kind context m)
      = (m.listActive context.entityType kind).takeWhile (tells kind context) := by
  have parts := List.takeWhile_append_dropWhile (p := tells kind context)
    (l := m.listActive context.entityType kind)
  have front := filter_mem_front (fun v : Filed Workflow => v.record.id)
    (parts.symm ▸ ready.ids_nodup kind context)
  rwa [parts] at front

/-- It can be told of a workflow that is reached. -/
theorem tells_of_isReached (ready : Ready w m) {v : Filed Workflow} (stored : v ∈ m.workflows)
    (reached : isReached kind context m v = true) : tells kind context v = true := by
  obtain ⟨u, front, same⟩ := List.mem_map.mp (of_decide_eq_true reached)
  have listed := (List.takeWhile_sublist _).mem front
  have kept := (List.mem_filter.mp (Amount.mem_inOrder listed)).1
  obtain rfl := List.inj_on_of_nodup_map ready.once kept stored same
  exact List.mem_takeWhile_imp front

/-- Where it can be told of all that are listed, those that are called are reached. -/
theorem isReached_of_told (ready : Ready w m) (told : Told kind context m) {v : Filed Workflow}
    (stored : v ∈ m.workflows) (called : isCalled kind context v.record = true) :
    isReached kind context m v = true := by
  have all : ∀ u ∈ m.listActive context.entityType kind, tells kind context u = true := by
    intro u mem
    obtain ⟨kept, candidate⟩ := List.mem_filter.mp (Amount.mem_inOrder mem)
    exact tells_iff.mpr (told u kept candidate)
  refine decide_eq_true (List.mem_map.mpr ⟨v, ?_, rfl⟩)
  rw [List.takeWhile_eq_self_iff.mpr all]
  exact (listActive_stable kind context ready.placed).perm.mem_iff.mpr
    (List.mem_filter.mpr ⟨stored, isCandidate_of_isCalled called⟩)

/-- What a dispatch starts. -/
theorem chosen_stable (ready : Ready w m) (kind : Open TriggerKind) (context : Context) :
    Amount.StableOrder (fun v : Filed Workflow => v.record.runOrder)
      (m.workflows.filter fun v => isCalled kind context v.record && isFree context w v
        && isReached kind context m v)
      (chosen kind context w (m.listActive context.entityType kind)) := by
  have sorted := ((listActive_stable kind context ready.placed).filter
    (isReached kind context m)).filter (selects kind context w)
  have same : ∀ v ∈ m.workflows,
      (selects kind context w v && isReached kind context m v
        && MemoryStore.isCandidate context.entityType kind v.record)
      = (isCalled kind context v.record && isFree context w v && isReached kind context m v) := by
    intro v stored
    cases reached : isReached kind context m v with
    | true =>
        have told := ready.tells_of_isReached stored reached
        rw [Bool.and_true, Bool.and_true, isCandidate_and_selects told]
    | false => simp
  rwa [ready.filter_isReached, List.filter_filter, List.filter_filter,
    List.filter_congr same] at sorted

/-- When the background has been carried to its end, each run that waited and each workflow that
was started has left one execution. -/
theorem drained (ready : Ready w m) (settings : Settings) (vs : List (Filed Workflow))
    (logs : List LogEntry) :
    ∃ m' new, ((started kind context w vs logs).drain settings).store = .memory m' ∧
      m'.executions = m.executions ++ new ∧
      new.map Execution.origin = w.waiting.map QueuedRun.origin
        ++ vs.map fun v => ⟨keyFor v.record context, kind⟩ := by
  have books : (started kind context w vs logs).Books
      (w.waiting ++ vs.map fun v => (runOf kind context v).outline) m.executions :=
    ⟨congrArg Store.table ready.memory, waiting_started .., ready.issued, ready.entries⟩
  have sound : ∀ q ∈ w.waiting ++ vs.map fun v => (runOf kind context v).outline, q.IsSound := by
    intro q hq
    rcases List.mem_append.mp hq with hq | hq
    · exact ready.sound q hq
    · obtain ⟨v, _, rfl⟩ := List.mem_map.mp hq
      rfl
  obtain ⟨new, books', origins⟩ := drain_books settings books sound
  obtain ⟨m', drained, executions⟩ := Store.memory_of_table books'.table
  refine ⟨m', new, drained, executions, ?_⟩
  rw [origins, List.map_append, List.map_map]
  rfl

end Ready

/-! ## The theorem -/

/-- A dispatch returns the workflows that are called and free, as far as it comes, each once and in
the stable order of their runs; and when the background has been carried to its end there is one
more execution for each of them, behind one for each run that was waiting already, and no other.
Where the triggers of all that are listed can be evaluated, it comes to all that are called.  A
workflow that is run once is free when no run of it is completed and its key is not claimed, which,
where no dispatch is under way and the workflow is run once all along, is the case just when every
run of it has ended. -/
theorem dispatch_starts_called (settings : Settings) (kind : Open TriggerKind) (context : Context)
    {w : World} {m : MemoryStore} (ready : Ready w m) :
    (∃ (vs : List (Filed Workflow)) (w' : World),
      (dispatch kind context).run w = (.ok (vs.map (·.record.id)), w') ∧
      (vs.map (·.record.id)).Nodup ∧
      Amount.StableOrder (fun v : Filed Workflow => v.record.runOrder)
        (m.workflows.filter fun v => isCalled kind context v.record && isFree context w v
          && isReached kind context m v) vs ∧
      ∃ m' new, (w'.drain settings).store = .memory m' ∧ m'.executions = m.executions ++ new ∧
        new.map Execution.origin = w.waiting.map QueuedRun.origin
          ++ vs.map fun v => ⟨keyFor v.record context, kind⟩) ∧
    (Told kind context m → ∀ v ∈ m.workflows, isCalled kind context v.record = true →
      isReached kind context m v = true) ∧
    ∀ (k : RunKey) (start s : System (List Uid)), start.Begins k →
      System.Reachable settings (World.Elsewhere k) start s → s.IsQuiet →
      (k ∈ s.world.claimed ↔ 0 < s.unfinishedRuns k) := by
  refine ⟨?_, fun told v => ready.isReached_of_told told, ?_⟩
  · have listed : w.store.listActive context.entityType kind
        = .ok (m.listActive context.entityType kind) := by
      rw [ready.memory]
      rfl
    have once := ready.ids_nodup kind context
    obtain ⟨logs, ran⟩ := dispatch_run ready.listing ready.ledger listed once
    refine ⟨_, _, ran, ?_, ready.chosen_stable kind context, ready.drained settings _ logs⟩
    exact once.sublist ((List.filter_sublist.trans (List.takeWhile_sublist _)).map _)
  · intro k start s begins reachable quiet
    exact ((Watched.of_begins begins).of_reachable reachable).claimed_iff quiet

theorem greeting_told : Told (.known .recordCreated) newDeal { workflows := [greeting] } := by
  intro v hv _
  obtain rfl := List.mem_singleton.mp hv
  exact ⟨true, rfl⟩

theorem greeting_started_once :
    Ready { store := .memory { workflows := [greeting] } } { workflows := [greeting] } ∧
      isReached (.known .recordCreated) newDeal { workflows := [greeting] } greeting = true ∧
      (∃ (vs : List (Filed Workflow)) (w' : World),
        (dispatch (.known .recordCreated) newDeal).run
            { store := .memory { workflows := [greeting] } } = (.ok (vs.map (·.record.id)), w') ∧
          ∃ m' new, (w'.drain {}).store = .memory m' ∧ m'.executions = [] ++ new ∧
            new.map Execution.origin = [] ++ vs.map fun v =>
              ⟨keyFor v.record newDeal, .known .recordCreated⟩) ∧
      (keyFor greeting.record newDeal ∈ greetedTwice.world.claimed
        ↔ 0 < greetedTwice.unfinishedRuns (keyFor greeting.record newDeal)) := by
  have ready : Ready { store := .memory { workflows := [greeting] } } { workflows := [greeting] } :=
    ⟨rfl, by decide, by decide, fun _ => (nomatch ·), fun _ => (nomatch ·), List.not_mem_nil,
      List.not_mem_nil, List.not_mem_nil⟩
  obtain ⟨⟨vs, w', ran, _, _, drained⟩, reached, claimed⟩ :=
    dispatch_starts_called {} (.known .recordCreated) newDeal ready
  exact ⟨ready, reached greeting_told greeting List.mem_cons_self rfl, ⟨vs, w', ran, drained⟩,
    claimed _ _ _ greetedTwice_begins .refl greetedTwice_isQuiet⟩

/-- The greeting as it was before it was to be run once. -/
def freeGreeting : Filed Workflow := Store.copy { greeting.record with runOnce := false }

/-- A world in which a run of the greeting waits, started before the greeting was to be run
once. -/
def greetingOnItsWay : World :=
  { ((dispatch (.known .recordCreated) newDeal).run
      { store := .memory { workflows := [freeGreeting] } }).2 with
    store := .memory { workflows := [greeting] } }

/-- A workflow that is now to be run once is started beside a run of it that was started before,
and there is an execution for each of the two runs in the end. -/
theorem greeting_started_beside_waiting :
    greeting.record.runOnce = true ∧
      (∃ q ∈ greetingOnItsWay.waiting, q.key = keyFor greeting.record newDeal) ∧
      ∃ w', (dispatch (.known .recordCreated) newDeal).run greetingOnItsWay
          = (.ok [greeting.record.id], w') ∧
        ∃ m', (w'.drain {}).store = .memory m' ∧ m'.executions.length = 2 := by
  have first : MemoryStore.listActive { workflows := [freeGreeting] } newDeal.entityType
      (.known .recordCreated) = [freeGreeting] := listActive_single rfl rfl rfl
  have second : MemoryStore.listActive { workflows := [greeting] } newDeal.entityType
      (.known .recordCreated) = [greeting] := listActive_single rfl rfl rfl
  obtain ⟨logs, ran⟩ := dispatch_run (w := { store := .memory { workflows := [freeGreeting] } })
    List.not_mem_nil List.not_mem_nil (congrArg Except.ok first) (by decide)
  have onItsWay : greetingOnItsWay = { started (.known .recordCreated) newDeal
      { store := .memory { workflows := [freeGreeting] } } [freeGreeting] logs with
      store := .memory { workflows := [greeting] } } := by
    rw [greetingOnItsWay, ran]
    rfl
  have waits : greetingOnItsWay.waiting
      = [(runOf (.known .recordCreated) newDeal freeGreeting).outline] := by
    rw [onItsWay]
    rfl
  have spared (site : String) : greetingOnItsWay.Spares site := by
    rw [onItsWay]
    exact List.not_mem_nil
  obtain ⟨logs', again⟩ := dispatch_run (w := greetingOnItsWay) (spared _) (spared _)
    (congrArg Except.ok second) (by decide)
  have both : chosen (.known .recordCreated) newDeal greetingOnItsWay [greeting] = [greeting] := by
    rw [onItsWay]
    rfl
  rw [both] at again
  have books : (started (.known .recordCreated) newDeal greetingOnItsWay [greeting] logs').Books
      [(runOf (.known .recordCreated) newDeal freeGreeting).outline,
        (runOf (.known .recordCreated) newDeal greeting).outline] [] :=
    ⟨rfl, by rw [waiting_started, waits]; rfl, fun _ => (nomatch ·), spared _⟩
  obtain ⟨new, books', origins⟩ := drain_books {} books
    (List.forall_mem_cons.mpr ⟨rfl, List.forall_mem_singleton.mpr rfl⟩)
  obtain ⟨m', drained, executions⟩ := Store.memory_of_table books'.table
  refine ⟨rfl, ⟨_, waits ▸ List.mem_cons_self, rfl⟩, _, again, m', drained, ?_⟩
  rw [executions, List.nil_append, ← List.length_map Execution.origin, origins]
  rfl

end Dispatch
end RecordFlow
