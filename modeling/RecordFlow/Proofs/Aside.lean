/-
# Aside — what the answers to most requests leave as it is

The promises of the engine rest on its own book, the keys that are claimed and
the runs that wait, and on the executions in the store.  All but seven of the
requests are aside of these: `aside_answer`.  So are the whole of an action
and the whole of a delivery, `isAside_execute` and `isAside_background`; what
an action does to tasks, records, tags and cursors is not told here.
-/
import RecordFlow.Proofs.Conduct
import RecordFlow.Proofs.Failures
import RecordFlow.Proofs.Ledger

namespace RecordFlow

/-! ## Faults -/

namespace Fault

theorem meet_sites (site : String) (fs : List Fault) :
    (meet site fs).2.map Fault.site = fs.map Fault.site := by
  fun_induction meet site fs with
  | case1 => rfl
  | case2 => rfl
  | case3 => rfl
  | case4 f fs _ _ met rest heq ih => simpa [heq] using ih

theorem meet_of_absent {site : String} {fs : List Fault} (absent : site ∉ fs.map Fault.site) :
    meet site fs = (none, fs) := by
  induction fs with
  | nil => rfl
  | cons f fs ih =>
      simp only [List.map_cons, List.mem_cons, not_or] at absent
      have other : f.site ≠ site := Ne.symm absent.1
      simp [meet, other, ih absent.2]

end Fault

/-- Requests that write to the services or to the log, or read on in the script of the client. -/
def Request.isOuter : Request → Bool
  | createTask _ | createActivity _ | logEmail _ | upsertTag _ | endExchange _ | log _ => true
  | _ => false

namespace World

/-- How a request is answered: not at all, since nobody is there; by a failure that changes
nothing but the faults; or by its site. -/
theorem answer_cases (w : World) (r : Request) :
    (w.isAddressed r = false ∧ w.answer r = (unaddressed r, w)) ∨
      (∃ e faults, w.answer r = (.error e, { w with faults })) ∨
      ∃ faults, w.answer r = { w with faults }.perform r := by
  unfold answer
  split
  · rename_i h
    exact .inl ⟨by simpa using h, rfl⟩
  · split
    · rename_i e _
      exact .inr (.inl ⟨e, w.faults, rfl⟩)
    · split
      · exact .inr (.inr ⟨w.faults, rfl⟩)
      · split
        · rename_i e faults _
          exact .inr (.inl ⟨e, faults, rfl⟩)
        · rename_i faults _
          exact .inr (.inr ⟨faults, rfl⟩)

/-- What no change of the faults alters holds after an answer where it holds after what the site
does. -/
theorem answer_of_perform {P : World → Prop} {w : World} {r : Request}
    (faulty : ∀ faults, P { w with faults })
    (performed : ∀ faults, P (({ w with faults } : World).perform r).2) : P (w.answer r).2 := by
  rcases w.answer_cases r with ⟨_, h⟩ | ⟨e, faults, h⟩ | ⟨faults, h⟩
  · rw [h]
    exact faulty w.faults
  · rw [h]
    exact faulty faults
  · rw [h]
    exact performed faults

/-! ### What holds after an operation that is put together

Operations of several kinds write to the store, change an adapter, note a
delivery or move a cursor; what they keep is told of each of these once. -/

section Parts

variable {P : World → Prop} {w : World}

theorem storing_of_stored {α : Type} {answer : α} {after : Except Failure Unit × Store}
    {also : World → World} (stored : P (w.withStore after.2)) (noted : ∀ v, P v → P (also v)) :
    P (w.storing answer after also).2 := by
  obtain ⟨x, s⟩ := after
  cases x with
  | ok _ => exact noted _ stored
  | error e => exact stored

theorem patching_of_patched {t : String} {f : Adapter → Except Failure Adapter} (here : P w)
    (patched : ∀ a, P (w.withAdapter a)) : P (w.patching t f).2 := by
  unfold patching
  split
  · exact patched _
  · exact here

theorem noteSaved_of_noted {d : Delivery} (here : P w)
    (noted : P { w with saved := w.saved ++ [d] }) : P (noteSaved d w) := by
  unfold noteSaved
  split
  · exact here
  · exact noted

theorem advanceRotation_of_turned {id : Uid} {size : Int} (here : P w)
    (stored : ∀ place s, w.store.advanceRotation id size = .ok (place, s) → P (w.withStore s))
    (shown : ∀ v slot f, P v → P (v.editRule slot f)) :
    P (w.perform (.advanceRotation id size)).2 := by
  simp only [perform]
  split
  · rename_i place s advanced
    have moved := stored place s advanced
    cases place with
    | none => exact moved
    | some place => exact shown _ _ _ moved
  · exact here

end Parts

/-! ### Requests that nothing can make fail -/

@[simp] theorem answer_now (w : World) : w.answer .now = (.ok w.clock, w) := rfl

@[simp] theorem answer_log (w : World) (entry : LogEntry) :
    w.answer (.log entry) = (.ok (), { w with logs := w.logs ++ [entry] }) := rfl

@[simp] theorem answer_publishExecution (w : World) (e : Execution) :
    w.answer (.publishExecution e) = (.ok (), w.withStore (w.store.publishExecution e)) := rfl

@[simp] theorem answer_release (w : World) (k : RunKey) :
    w.answer (.release k) = (.ok (), { w with claimed := w.claimed.filter (· ≠ k) }) := rfl

@[simp] theorem answer_start (w : World) (work : Background) :
    w.answer (.start work) = (.ok (), { w with queue := w.queue ++ [work] }) := rfl

theorem answer_claim (w : World) (k : RunKey) :
    w.answer (.claim k) = if k ∈ w.claimed then (.ok false, w)
      else (.ok true, { w with claimed := w.claimed ++ [k] }) := rfl

/-! ### Sites that are spared -/

/-- No fault is in store for a site. -/
def Spares (w : World) (site : String) : Prop := site ∉ w.faults.map Fault.site

theorem answer_of_spared {w : World} {r : Request} {site : String} (at_ : r.site? = some site)
    (spared : w.Spares site) (addressed : w.isAddressed r = true)
    (reachable : w.unreachable? r = none) : w.answer r = w.perform r := by
  simp [answer, addressed, reachable, at_, Fault.meet_of_absent spared]

theorem patching_ok {w : World} {t : String} {a : Adapter}
    (found : w.registry.adapter? t = some a) (f : Adapter → Adapter) :
    w.patching t (fun a => .ok (f a)) = (.ok (), w.withAdapter (f a)) := by
  simp only [patching, Registry.adapter, found]
  rfl

/-- Where the records of a kind carry tags, and nothing is in store for it, a tag is attached. -/
theorem answer_connectTag {w : World} {t : String} {a : Adapter}
    (spared : w.Spares ("adapter." ++ t ++ ".connect_tag"))
    (found : w.registry.adapter? t = some a) (taggable : a.taggable = true) (id tag : String) :
    w.answer (.connectTag t id tag) = (.ok (), w.withAdapter (a.connectTag id tag)) := by
  have reachable : w.unreachable? (.connectTag t id tag) = none := by
    simp only [unreachable?, found, taggable, if_true]
  rw [answer_of_spared rfl spared rfl reachable]
  exact patching_ok found fun a => a.connectTag id tag

theorem answer_disconnectTag {w : World} {t : String} {a : Adapter}
    (spared : w.Spares ("adapter." ++ t ++ ".disconnect_tag"))
    (found : w.registry.adapter? t = some a) (taggable : a.taggable = true) (id tag : String) :
    w.answer (.disconnectTag t id tag) = (.ok (), w.withAdapter (a.disconnectTag id tag)) := by
  have reachable : w.unreachable? (.disconnectTag t id tag) = none := by
    simp only [unreachable?, found, taggable, if_true]
  rw [answer_of_spared rfl spared rfl reachable]
  exact patching_ok found fun a => a.disconnectTag id tag

/-! ### What lies outside the store and the book -/

/-- The services, the client with its script, the log of the engine and the faults. -/
def outer (w : World) :
    Services × Bool × List (String × List Exchange) × List LogEntry × List Fault :=
  (w.services, w.clientClosed, w.script, w.logs, w.faults)

theorem storing_outer {α : Type} {w : World} {answer : α} {after : Except Failure Unit × Store}
    {also : World → World} (h : ∀ v, (also v).outer = v.outer) :
    (w.storing answer after also).2.outer = w.outer :=
  storing_of_stored (P := fun v => v.outer = w.outer) rfl fun v same => (h v).trans same

theorem patching_outer {w : World} {t : String} {f : Adapter → Except Failure Adapter} :
    (w.patching t f).2.outer = w.outer :=
  patching_of_patched (P := fun v => v.outer = w.outer) rfl fun _ => rfl

theorem noteSaved_outer (d : Delivery) (w : World) : (noteSaved d w).outer = w.outer :=
  noteSaved_of_noted (P := fun v => v.outer = w.outer) rfl rfl

theorem perform_outer (w : World) {r : Request} (inner : r.isOuter = false) :
    (w.perform r).2.outer = w.outer := by
  cases r with
  | recordRun id time =>
      simp only [perform, countRun]
      split <;> rfl
  | openExecution e => exact storing_outer fun _ => rfl
  | createExecution e => exact storing_outer fun _ => rfl
  | finishExecution e => exact storing_outer fun _ => rfl
  | advanceRotation id size =>
      exact advanceRotation_of_turned (P := fun v => v.outer = w.outer) rfl (fun _ _ _ => rfl)
        fun _ _ _ same => same
  | openDelivery d => exact storing_outer (noteSaved_outer _)
  | saveDelivery d => exact storing_outer (noteSaved_outer _)
  | fileDelivery d => exact storing_outer (noteSaved_outer _)
  | updateField t id field value => exact patching_outer
  | connectTag t id tag => exact patching_outer
  | disconnectTag t id tag => exact patching_outer
  | claim k =>
      simp only [perform]
      split <;> rfl
  | createTask | createActivity | logEmail | upsertTag | endExchange | log => cases inner
  | _ => rfl

/-- What of the outside does not rest on the faults is the same after an inner request. -/
theorem answer_outer {β : Type} (w : World) (view : World → β) {r : Request}
    (inner : r.isOuter = false) (seen : ∀ v v' : World, v'.outer = v.outer → view v' = view v)
    (spared : ∀ faults, view { w with faults } = view w) :
    view (w.answer r).2 = view w := by
  refine answer_of_perform (P := fun v => view v = view w) spared fun faults => ?_
  exact (seen _ _ (perform_outer _ inner)).trans (spared faults)

theorem perform_faults (w : World) (r : Request) : (w.perform r).2.faults = w.faults := by
  cases inner : r.isOuter with
  | false => exact congrArg (fun outer => outer.2.2.2.2) (w.perform_outer inner)
  | true =>
      cases r with
      | createTask | createActivity | logEmail | upsertTag | endExchange | log => rfl
      | _ => cases inner

/-- What a call leaves as it is of the faults in store for it, no answer changes. -/
theorem answer_faults_map {β : Type} {view : Fault → β} (w : World) (r : Request)
    (met : ∀ site, (Fault.meet site w.faults).2.map view = w.faults.map view) :
    (w.answer r).2.faults.map view = w.faults.map view := by
  unfold answer
  split
  · rfl
  · split
    · rfl
    · split
      · rw [perform_faults]
      · rename_i site _
        have same := met site
        split
        · rename_i heq
          rwa [heq] at same
        · rename_i heq
          rw [perform_faults]
          rwa [heq] at same

/-- The sites that faults are in store for are the same after any answer. -/
theorem answer_fault_sites (w : World) (r : Request) :
    (w.answer r).2.faults.map Fault.site = w.faults.map Fault.site :=
  w.answer_faults_map r fun site => Fault.meet_sites site w.faults

theorem Spares.answer {w : World} {site : String} (spared : w.Spares site) (r : Request) :
    (w.answer r).2.Spares site := by
  rwa [Spares, answer_fault_sites]

end World

/-! ## The engine's book -/

/-- A definition without the statistics of its runs. -/
def Workflow.definition (w : Workflow) : Workflow :=
  { w with totalExecutions := .whole 0, lastExecutedAt := none }

/-- A run with its definition as it was made. -/
def QueuedRun.outline (q : QueuedRun) : QueuedRun :=
  { q with workflow := ⟨none, q.workflow.record.definition⟩ }

/-- The run that work in the background is, in outline. -/
def Background.run? : Background → Option QueuedRun
  | run q => some q.outline
  | delivery _ => none

/-- The runs that wait for their start, in outline. -/
def World.waiting (w : World) : List QueuedRun := w.queue.filterMap Background.run?

/-- The executions of a store, as either kind keeps them. -/
def Store.table : Store → List Execution ⊕ List ExecutionRow
  | memory m => .inl m.executions
  | relational r => .inr r.executions

theorem Store.memory_of_table {s : Store} {es : List Execution} (h : s.table = .inl es) :
    ∃ m, s = .memory m ∧ m.executions = es := by
  cases s with
  | memory m => exact ⟨m, rfl, Sum.inl.inj h⟩
  | relational r => cases h

/-- Which definitions a store has, and whether they are run once. -/
def Store.flags : Store → List (Uid × Bool)
  | memory m => m.workflows.map fun w => (w.record.id, w.record.runOnce)
  | relational r => r.workflows.map fun row => (row.id, row.runOnce)

/-- Whether a store keeps everything in memory. -/
def Store.isMemory (s : Store) : Bool := s.table.isLeft

theorem Store.memory_of_isMemory {s : Store} (h : s.isMemory = true) : ∃ m, s = .memory m := by
  cases s with
  | memory m => exact ⟨m, rfl⟩
  | relational r => cases h

theorem Store.ledger_eq_of_table {s s' : Store} (h : s'.table = s.table) :
    s'.ledger = s.ledger := by
  cases s with
  | memory m =>
      cases s' with
      | memory m' => exact congrArg (List.map Execution.line) (Sum.inl.inj h)
      | relational r' => cases h
  | relational r =>
      cases s' with
      | memory m' => cases h
      | relational r' => exact congrArg (List.map ExecutionRow.line) (Sum.inr.inj h)

/-- Requests that neither write executions nor claim, release or start runs. -/
def Request.isAside : Request → Bool
  | openExecution _ | createExecution _ | publishExecution _ | finishExecution _ => false
  | claim _ | release _ | start (.run _) => false
  | _ => true

/-- Requests aside that neither wait nor let the others go on. -/
def Request.isPrompt : Request → Bool
  | beginExchange .. | endExchange _ | pause .. | giveWay => false
  | r => r.isAside

theorem Request.isAside_of_isPrompt {r : Request} (h : r.isPrompt = true) : r.isAside = true := by
  cases r <;> first | exact h | rfl

/-- A request that is prompt is answered at once, and the task that makes it goes on. -/
theorem Request.steady_of_isPrompt {r : Request} (h : r.isPrompt = true) :
    Prog.yields r = false ∧ ∀ w : World, w.isReady r = true := by
  cases r <;> first | exact ⟨rfl, fun _ => rfl⟩ | cases h

/-- What an action may ask: what is prompt, but neither to count a run nor to tell of one. -/
def Request.isOfAction : Request → Bool
  | recordRun .. | emit .. => false
  | r => r.isPrompt

theorem Request.isPrompt_of_isOfAction {r : Request} (h : r.isOfAction = true) :
    r.isPrompt = true := by
  cases r <;> first | exact h | cases h

/-- What an action asks that leaves no record and starts nothing: to find an owner, to write a field
or to change a tag. -/
def Request.isRoutine : Request → Bool
  | createTask _ | createActivity _ | logEmail _ => false
  | openDelivery _ | publishDelivery _ | saveDelivery _ | fileDelivery _ | start _ => false
  | r => r.isOfAction

theorem Request.isOfAction_of_isRoutine {r : Request} (h : r.isRoutine = true) :
    r.isOfAction = true := by
  cases r <;> first | exact h | cases h

/-- Routine that leaves everything as it is but the log: what only looks. -/
def Request.isReading : Request → Bool
  | getRule _ | teamMembers _ | countOwned .. | findAdapter _ | findTag _ => true
  | now | enterRunner | log _ => true
  | _ => false

/-- What is asked to find an owner: to look, and to move the cursor of a rule. -/
def Request.isSeeking : Request → Bool
  | advanceRotation .. | writeCursor .. | turnCursor .. => true
  | r => r.isReading

theorem Request.isSeeking_of_isReading {r : Request} (h : r.isReading = true) :
    r.isSeeking = true := by
  cases r <;> first | exact h | rfl

theorem Request.isRoutine_of_isSeeking {r : Request} (h : r.isSeeking = true) :
    r.isRoutine = true := by
  cases r <;> first | rfl | cases h

namespace World

/-- A world is another but for what the engine's promises do not rest on. -/
structure Aside (w w' : World) : Prop where
  claimed : w'.claimed = w.claimed
  waiting : w'.waiting = w.waiting
  issued : w'.issued = w.issued
  table : w'.store.table = w.store.table
  flags : w'.store.flags = w.store.flags

namespace Aside

theorem refl (w : World) : Aside w w := ⟨rfl, rfl, rfl, rfl, rfl⟩

theorem trans {u v w : World} (h : Aside u v) (h' : Aside v w) : Aside u w :=
  ⟨h'.claimed.trans h.claimed, h'.waiting.trans h.waiting, h'.issued.trans h.issued,
    h'.table.trans h.table, h'.flags.trans h.flags⟩

theorem withFaults (w : World) (faults : List Fault) : Aside w { w with faults } :=
  ⟨rfl, rfl, rfl, rfl, rfl⟩

theorem withStore {w : World} {s : Store} (table : s.table = w.store.table)
    (flags : s.flags = w.store.flags) : Aside w (w.withStore s) :=
  ⟨rfl, rfl, rfl, table, flags⟩

theorem editRule (w : World) (slot : Option Nat) (f : AssignmentRule → AssignmentRule) :
    Aside w (w.editRule slot f) := by
  refine ⟨rfl, rfl, rfl, ?_, ?_⟩ <;> simp only [World.editRule, Store.editRule] <;>
    cases w.store <;> rfl

end Aside

/-! ### Counting a run -/

theorem view_editAll {β : Type} {f : Workflow → Workflow} (view : Workflow → β)
    (kept : ∀ x, view (f x) = view x) (slot : Option Nat) (ds : List (Filed Workflow)) :
    (Filed.editAll slot f ds).map (fun d => view d.record) = ds.map fun d => view d.record := by
  cases slot with
  | none => rfl
  | some s =>
      simp only [Filed.editAll, List.map_map]
      refine List.map_congr_left fun d _ => ?_
      by_cases h : d.slot = some s <;> simp [Filed.edit, h, kept]

theorem definition_edit {f : Workflow → Workflow} (kept : ∀ x, (f x).definition = x.definition)
    (slot : Option Nat) (d : Filed Workflow) :
    ((Filed.editAll slot f [d]).headD d).record.definition = d.record.definition := by
  cases slot with
  | none => rfl
  | some s => by_cases h : d.slot = some s <;> simp [Filed.editAll, Filed.edit, h, kept]

theorem waiting_editWorkflow {f : Workflow → Workflow}
    (kept : ∀ x, (f x).definition = x.definition) (w : World) (slot : Option Nat) :
    (w.editWorkflow slot f).waiting = w.waiting := by
  simp only [waiting, editWorkflow, List.filterMap_map]
  congr 1
  funext b
  cases b with
  | run q =>
      simp only [Function.comp, Background.run?, QueuedRun.outline, definition_edit kept]
  | delivery job => rfl

theorem definition_recordRun (x : Workflow) (time : Instant) :
    (x.recordRun time).definition = x.definition := rfl

theorem aside_countRun (w : World) (id : Uid) (time : Instant) : Aside w (w.countRun id time) := by
  unfold countRun
  split
  · rename_i slot _
    have kept := fun x => definition_recordRun x time
    refine ⟨rfl, waiting_editWorkflow kept w (some slot), rfl, ?_, ?_⟩
    · simp only [editWorkflow, Store.editWorkflow]
      cases w.store <;> rfl
    · simp only [editWorkflow, Store.editWorkflow]
      cases w.store with
      | memory m =>
          have same : ∀ x : Workflow, ((x.recordRun time).id, (x.recordRun time).runOnce)
            = (x.id, x.runOnce) := fun _ => rfl
          exact view_editAll (fun x => (x.id, x.runOnce)) same (some slot) m.workflows
      | relational r => rfl
  · refine .withStore ?_ ?_
    · cases w.store <;> rfl
    · cases w.store with
      | memory m =>
          simp only [Store.recordRun, MemoryStore.recordRun, Keyed.modify, Store.flags,
            List.map_map]
          refine List.map_congr_left fun d _ => ?_
          by_cases h : MemoryStore.workflowKey d = id <;> simp [h, Workflow.recordRun]
      | relational r =>
          simp only [Store.recordRun, RelationalStore.recordRun, Keyed.modify, Store.flags,
            List.map_map]
          refine List.map_congr_left fun row _ => ?_
          by_cases h : row.id = id <;> simp [h]

/-! ### Every request that is aside -/

theorem aside_patching (w : World) (t : String) (f : Adapter → Except Failure Adapter) :
    Aside w (w.patching t f).2 :=
  patching_of_patched (Aside.refl w) fun _ => ⟨rfl, rfl, rfl, rfl, rfl⟩

theorem aside_noteSaved (d : Delivery) (w : World) : Aside w (noteSaved d w) :=
  noteSaved_of_noted (Aside.refl w) ⟨rfl, rfl, rfl, rfl, rfl⟩

theorem saveDelivery_relational (r : RelationalStore) (d : Delivery) :
    ∃ deliveries, (r.saveDelivery d).2 = { r with deliveries } := by
  unfold RelationalStore.saveDelivery
  split
  · unfold RelationalStore.inserting
    split
    · exact ⟨r.deliveries, rfl⟩
    · rename_i t inserted
      obtain ⟨row, _, inserted⟩ := ok_of_bind_ok inserted
      obtain ⟨rows, _, inserted⟩ := ok_of_bind_ok inserted
      exact ⟨rows, (Except.ok.inj inserted).symm⟩
  · split
    · rename_i t replaced
      obtain ⟨_, _, replaced⟩ := ok_of_bind_ok replaced
      obtain ⟨_, _, replaced⟩ := ok_of_bind_ok replaced
      obtain ⟨_, _, replaced⟩ := ok_of_bind_ok replaced
      exact ⟨_, (Except.ok.inj replaced).symm⟩
    · exact ⟨r.deliveries, rfl⟩

theorem saveDelivery_kept (s : Store) (d : Filed Delivery) :
    (s.saveDelivery d).2.table = s.table ∧ (s.saveDelivery d).2.flags = s.flags := by
  cases s with
  | memory m => exact ⟨rfl, rfl⟩
  | relational r =>
      obtain ⟨deliveries, h⟩ := saveDelivery_relational r d.record
      have h : ((Store.relational r).saveDelivery d).2 = .relational { r with deliveries } :=
        congrArg Store.relational h
      rw [h]
      exact ⟨rfl, rfl⟩

theorem aside_saving {α : Type} (w : World) (answer : α) (d : Filed Delivery) (d' : Delivery) :
    Aside w (w.storing answer (w.store.saveDelivery d) (noteSaved d')).2 := by
  have kept := saveDelivery_kept w.store d
  have stored : Aside w (w.withStore (w.store.saveDelivery d).2) := .withStore kept.1 kept.2
  exact storing_of_stored stored fun v here => here.trans (aside_noteSaved d' v)

/-- Moving a cursor changes the rules of a store only. -/
theorem advanceRotation_cases {s s' : Store} {id : Uid} {size : Int} {place : Option Int}
    (h : s.advanceRotation id size = .ok (place, s')) :
    (∃ m rules, s = .memory m ∧ s' = .memory { m with rules }) ∨
      ∃ r rules, s = .relational r ∧ s' = .relational { r with rules } := by
  cases s with
  | memory m =>
      obtain ⟨⟨place', m'⟩, moved, same⟩ := ok_of_map_ok h
      obtain ⟨rfl, rfl⟩ := Prod.mk.inj same
      unfold MemoryStore.advanceRotation at moved
      split at moved
      · obtain ⟨-, rfl⟩ := Prod.mk.inj (Except.ok.inj moved)
        exact .inl ⟨m, m.rules, rfl, rfl⟩
      · split at moved
        · cases moved
        · obtain ⟨-, rfl⟩ := Prod.mk.inj (Except.ok.inj moved)
          exact .inl ⟨m, _, rfl, rfl⟩
  | relational r =>
      obtain ⟨⟨place', r'⟩, moved, same⟩ := ok_of_map_ok h
      obtain ⟨rfl, rfl⟩ := Prod.mk.inj same
      obtain ⟨whole, _, moved⟩ := ok_of_bind_ok moved
      split at moved
      · obtain ⟨-, rfl⟩ := Prod.mk.inj (Except.ok.inj moved)
        exact .inr ⟨r, r.rules, rfl, rfl⟩
      · split at moved
        · cases moved
        · obtain ⟨-, rfl⟩ := Prod.mk.inj (Except.ok.inj moved)
          exact .inr ⟨r, _, rfl, rfl⟩

theorem advanceRotation_kept {s s' : Store} {id : Uid} {size : Int} {place : Option Int}
    (h : s.advanceRotation id size = .ok (place, s')) :
    s'.table = s.table ∧ s'.flags = s.flags := by
  rcases advanceRotation_cases h with ⟨m, rules, rfl, rfl⟩ | ⟨r, rules, rfl, rfl⟩ <;>
    exact ⟨rfl, rfl⟩

theorem aside_advanceRotation (w : World) (id : Uid) (size : Int) :
    Aside w (w.perform (.advanceRotation id size)).2 := by
  refine advanceRotation_of_turned (Aside.refl w) (fun place s advanced => ?_)
    fun v slot f here => here.trans (.editRule v slot f)
  have kept := advanceRotation_kept advanced
  exact .withStore kept.1 kept.2

theorem aside_perform (w : World) {r : Request} (aside : r.isAside = true) :
    Aside w (w.perform r).2 := by
  cases r with
  | openExecution e => cases aside
  | createExecution e => cases aside
  | publishExecution e => cases aside
  | finishExecution e => cases aside
  | claim k => cases aside
  | release k => cases aside
  | start work =>
      cases work with
      | run q => cases aside
      | delivery job => exact ⟨rfl, by simp [waiting, perform, Background.run?], rfl, rfl, rfl⟩
  | recordRun id time => exact aside_countRun w id time
  | advanceRotation id size => exact aside_advanceRotation w id size
  | writeCursor rule place => exact .editRule w rule.slot _
  | turnCursor rule size => exact .editRule w rule.slot _
  | openDelivery d => exact aside_saving w _ _ _
  | saveDelivery d => exact aside_saving w _ _ _
  | fileDelivery d => exact aside_saving w _ _ _
  | publishDelivery d =>
      refine ⟨rfl, rfl, rfl, ?_, ?_⟩ <;> simp only [perform, Store.publishDelivery] <;>
        cases w.store <;> rfl
  | updateField t id field value => exact aside_patching ..
  | connectTag t id tag => exact aside_patching ..
  | disconnectTag t id tag => exact aside_patching ..
  | _ => exact ⟨rfl, rfl, rfl, rfl, rfl⟩

/-- The answer to a request that is aside leaves the engine's book and the executions alone. -/
theorem aside_answer (w : World) {r : Request} (aside : r.isAside = true) :
    Aside w (w.answer r).2 := by
  refine answer_of_perform (Aside.withFaults w) fun faults => ?_
  exact (Aside.withFaults w faults).trans (aside_perform _ aside)

/-! ### Requests that are not -/

theorem isMemory_createExecution (s : Store) (e : Execution) :
    (s.createExecution e).2.isMemory = s.isMemory := by
  cases s <;> rfl

theorem isMemory_finishExecution (s : Store) (e : Execution) :
    (s.finishExecution e).2.isMemory = s.isMemory :=
  s.finishExecution_apart (fun _ _ => rfl) (fun _ _ => rfl) e

theorem noteCreated_store (id : RecordId) (w : World) : (noteCreated id w).store = w.store := rfl

theorem storing_store {α : Type} {w : World} {answer : α} {after : Except Failure Unit × Store}
    {also : World → World} (h : ∀ v, (also v).store = v.store) :
    (w.storing answer after also).2.store = after.2 :=
  storing_of_stored (P := fun v => v.store = after.2) rfl fun v same => (h v).trans same

/-- No answer puts a store of another kind in the place of the store. -/
theorem isMemory_answer (w : World) (r : Request) :
    (w.answer r).2.store.isMemory = w.store.isMemory := by
  by_cases aside : r.isAside = true
  · rw [Store.isMemory, (aside_answer w aside).table, Store.isMemory]
  · refine answer_of_perform (P := fun v => v.store.isMemory = w.store.isMemory) (fun _ => rfl)
      fun faults => ?_
    cases r with
    | openExecution e =>
        exact (congrArg Store.isMemory (storing_store (noteCreated_store _))).trans
          (isMemory_createExecution _ _)
    | createExecution e =>
        exact (congrArg Store.isMemory (storing_store (noteCreated_store _))).trans
          (isMemory_createExecution _ _)
    | publishExecution e =>
        simp only [perform, Store.publishExecution]
        cases w.store <;> rfl
    | finishExecution e =>
        exact (congrArg Store.isMemory (storing_store fun _ => rfl)).trans
          (isMemory_finishExecution _ _)
    | claim k =>
        simp only [perform]
        split <;> rfl
    | release k => rfl
    | start work => rfl
    | _ => exact absurd rfl aside

/-! ### Opening and closing an entry -/

/-- An entry that is to be opened is given to the store under a new identifier. -/
theorem perform_openExecution (w : World) (e : Execution) :
    (w.perform (.openExecution e)).2.claimed = w.claimed ∧
      (w.perform (.openExecution e)).2.waiting = w.waiting ∧
      (w.perform (.openExecution e)).2.issued = w.issued + 1 ∧
      (w.perform (.openExecution e)).2.store
        = (w.store.createExecution { e with id := .issued (w.issued + 1) }).2 ∧
      ((w.perform (.openExecution e)).1 = .ok { e with id := .issued (w.issued + 1) } ∨
        ∃ f, (w.perform (.openExecution e)).1 = .error f) := by
  simp only [perform, storing]
  split
  · rename_i heq
    rw [heq]
    exact ⟨rfl, rfl, rfl, rfl, .inl rfl⟩
  · rename_i f _ heq
    rw [heq]
    exact ⟨rfl, rfl, rfl, rfl, .inr ⟨f, rfl⟩⟩

/-- An entry that is to be finished is given to the store. -/
theorem perform_finishExecution (w : World) (e : Execution) :
    (w.perform (.finishExecution e)).2.claimed = w.claimed ∧
      (w.perform (.finishExecution e)).2.waiting = w.waiting ∧
      (w.perform (.finishExecution e)).2.issued = w.issued ∧
      (w.perform (.finishExecution e)).2.store = (w.store.finishExecution e).2 := by
  simp only [perform, storing]
  split
  · rename_i heq
    rw [heq]
    exact ⟨rfl, rfl, rfl, rfl⟩
  · rename_i heq
    rw [heq]
    exact ⟨rfl, rfl, rfl, rfl⟩

/-- An entry that is opened has the next identifier and is in the store. -/
theorem openExecution_ok {w w' : World} {e e' : Execution}
    (h : w.answer (.openExecution e) = (.ok e', w')) :
    e' = { e with id := .issued (w.issued + 1) } ∧
      w.store.createExecution e' = (.ok (), w'.store) := by
  rcases w.answer_cases (.openExecution e) with ⟨no, _⟩ | ⟨f, faults, hf⟩ | ⟨faults, hp⟩
  · cases no
  · rw [h] at hf
    cases hf
  · rw [h] at hp
    simp only [perform, storing] at hp
    split at hp
    · rename_i u s created
      obtain ⟨hx, rfl⟩ := Prod.mk.inj hp
      obtain rfl := Except.ok.inj hx
      exact ⟨rfl, created⟩
    · cases hp

/-- An entry that is closed is stored. -/
theorem closeExecution_ok {w w' : World} {e e' : Execution}
    (h : w.answer (.finishExecution e) = (.ok e', w')) :
    w.store.finishExecution e = (.ok (), w'.store) := by
  rcases w.answer_cases (.finishExecution e) with ⟨no, _⟩ | ⟨f, faults, hf⟩ | ⟨faults, hp⟩
  · cases no
  · rw [h] at hf
    cases hf
  · rw [h] at hp
    simp only [perform, storing] at hp
    split at hp
    · rename_i u s finished
      obtain ⟨-, rfl⟩ := Prod.mk.inj hp
      exact finished
    · cases hp

end World

/-! ## Whole programs aside -/

namespace Prog

variable {α β : Type}

/-- Whatever a program asks is aside. -/
def IsAside (p : Prog α) : Prop := p.Only fun r => r.isAside = true

theorem isAside_bind {m : Prog α} {rest : α → Prog β} (h : m.IsAside)
    (hrest : ∀ a, (rest a).IsAside) : (m >>= rest).IsAside :=
  only_bind h hrest

theorem isAside_ask {r : Request} (h : r.isAside = true) : (ask r).IsAside := only_ask h

/-- Whatever a program asks is aside, and answered without a break. -/
def IsPrompt (p : Prog α) : Prop := p.Only fun r => r.isPrompt = true

theorem IsPrompt.isAside {p : Prog α} (h : p.IsPrompt) : p.IsAside :=
  h.mono fun _ => Request.isAside_of_isPrompt

/-- Whatever a program asks an action may ask; and it fails, if it does, in one of the library's own
ways or with a failure that it was answered. -/
def IsPlain (p : Prog α) : Prop :=
  p.Passes (fun r => r.isOfAction = true) (fun _ => True) Failure.IsOwn

theorem IsPlain.isPrompt {p : Prog α} (h : p.IsPlain) : p.IsPrompt :=
  (Passes.only h).mono fun _ => Request.isPrompt_of_isOfAction

/-- A program that is plain and asks for routine only. -/
def IsRoutine (p : Prog α) : Prop :=
  p.Passes (fun r => r.isRoutine = true) (fun _ => True) Failure.IsOwn

theorem IsRoutine.isPlain {p : Prog α} (h : p.IsRoutine) : p.IsPlain :=
  Passes.weaken h fun _ => Request.isOfAction_of_isRoutine

theorem isRoutine_ask {r : Request} (h : r.isRoutine = true) : (ask r).IsRoutine := passes_ask h

/-- A program that is plain and only looks. -/
def IsReading (p : Prog α) : Prop :=
  p.Passes (fun r => r.isReading = true) (fun _ => True) Failure.IsOwn

/-- A program that is plain and asks only for what finds an owner. -/
def IsSeeking (p : Prog α) : Prop :=
  p.Passes (fun r => r.isSeeking = true) (fun _ => True) Failure.IsOwn

theorem isReading_ask {r : Request} (h : r.isReading = true) : (ask r).IsReading := passes_ask h

theorem isSeeking_ask {r : Request} (h : r.isSeeking = true) : (ask r).IsSeeking := passes_ask h

theorem IsReading.isSeeking {p : Prog α} (h : p.IsReading) : p.IsSeeking :=
  Passes.weaken h fun _ => Request.isSeeking_of_isReading

theorem IsSeeking.isRoutine {p : Prog α} (h : p.IsSeeking) : p.IsRoutine :=
  Passes.weaken h fun _ => Request.isRoutine_of_isSeeking

theorem isPlain_bind {m : Prog α} {rest : α → Prog β} (h : m.IsPlain)
    (hrest : ∀ a, (rest a).IsPlain) : (m >>= rest).IsPlain :=
  passes_bind h fun a _ => hrest a

theorem isPlain_ask {r : Request} (h : r.isOfAction = true) : (ask r).IsPlain := passes_ask h

theorem isPlain_pure (a : α) : (pure a : Prog α).IsPlain := trivial

theorem isPlain_ofExcept {x : Except Failure α} (h : Owned x) : (ofExcept x).IsPlain :=
  passes_ofExcept h

/-- A program that is aside leaves the engine's book and the executions alone. -/
theorem IsAside.run {p : Prog α} (h : p.IsAside) (w : World) : w.Aside (p.run w).2 :=
  Only.run w.Aside (fun _ _ kept aside => kept.trans (World.aside_answer _ aside)) h
    (World.Aside.refl w)

end Prog

open Prog (ask passes_bind passes_ask passes_pure passes_ofExcept passes_map isReading_ask
  isSeeking_ask isRoutine_ask isPlain_bind isPlain_ask isPlain_pure isPlain_ofExcept isAside_bind
  isAside_ask only_bind only_ask only_pure only_ofExcept only_attempt)

namespace Assignment

theorem isReading_candidatePool (rule : AssignmentRule) : (candidatePool rule).IsReading := by
  unfold candidatePool
  split
  · exact passes_pure trivial
  · split
    · exact isReading_ask rfl
    · exact passes_pure trivial

theorem isSeeking_nextInTurn (rule : Filed AssignmentRule) (size : Int) :
    (nextInTurn rule size).IsSeeking := by
  refine passes_bind (isSeeking_ask rfl) fun place _ => ?_
  cases place with
  | none => exact isSeeking_ask rfl
  | some place => exact passes_bind (isSeeking_ask rfl) fun _ _ => passes_pure trivial

theorem isSeeking_roundRobin (rule : Filed AssignmentRule) : (roundRobin rule).IsSeeking := by
  refine passes_bind (isReading_candidatePool _).isSeeking fun pool _ => ?_
  split
  · exact passes_pure trivial
  · exact passes_bind (isSeeking_nextInTurn _ _) fun _ _ => passes_pure trivial

theorem isReading_loads (entityType : String) (users : List String) :
    (loads entityType users).IsReading := by
  induction users with
  | nil => exact passes_pure trivial
  | cons user users ih =>
      exact passes_bind (isReading_ask rfl) fun _ _ => passes_bind ih fun _ _ => passes_pure trivial

theorem isReading_loadBalanced (rule : AssignmentRule) (entityType : String) :
    (loadBalanced rule entityType).IsReading := by
  refine passes_bind (isReading_candidatePool _) fun pool _ => ?_
  split
  · exact passes_pure trivial
  · exact passes_bind (isReading_loads _ _) fun _ _ => passes_pure trivial

theorem resolve_of_roundRobin {rule : Filed AssignmentRule}
    (turns : rule.record.method = .known .roundRobin) (context : Context) :
    resolve rule context = roundRobin rule := by
  rw [resolve, turns]

/-- Only a rule that goes by turns moves anything. -/
theorem isReading_resolve {rule : Filed AssignmentRule} {context : Context}
    (still : rule.record.method ≠ .known .roundRobin) : (resolve rule context).IsReading := by
  unfold resolve
  split
  · exact passes_pure trivial
  · rename_i turns
    exact absurd turns still
  · exact passes_ofExcept (AssignmentRule.owned_territoryUser _ _)
  · exact isReading_loadBalanced _ _
  · exact passes_bind (isReading_ask rfl) fun _ _ => passes_pure trivial

theorem isSeeking_resolve (rule : Filed AssignmentRule) (context : Context) :
    (resolve rule context).IsSeeking := by
  by_cases turns : rule.record.method = .known .roundRobin
  · rw [resolve_of_roundRobin turns]
    exact isSeeking_roundRobin rule
  · exact (isReading_resolve turns).isSeeking

theorem isSeeking_ownerFor (config : OwnerConfig) (context : Context) :
    (ownerFor config context).IsSeeking := by
  unfold ownerFor
  split
  · exact passes_pure trivial
  · split
    · exact passes_pure trivial
    · rename_i reference _
      have own := owned_ruleReference reference
      -- how a reference is read does not matter here, and is long to evaluate
      generalize ruleReference reference = read at own ⊢
      refine passes_bind (passes_ofExcept own) fun id _ => ?_
      refine passes_bind (isSeeking_ask rfl) fun rule _ => ?_
      cases rule with
      | none => exact passes_pure trivial
      | some rule =>
          show Prog.IsSeeking (if rule.record.isActive then resolve rule context else pure none)
          split
          · exact isSeeking_resolve _ _
          · exact passes_pure trivial

end Assignment

namespace Runner

/-! ### What the kinds ask for

Rendering asks for nothing, and around what an action of a kind asks for nothing else is asked. -/

section Kinds

variable {allowed : Request → Prop} (site : Site)

theorem passes_render (template : String) :
    (site.render template).Passes allowed (fun _ => True) Failure.IsOwn :=
  passes_ofExcept (Template.owned_render _ _)

theorem passes_render? (template : Option String) :
    (site.render? template).Passes allowed (fun _ => True) Failure.IsOwn := by
  cases template with
  | none => exact passes_pure trivial
  | some template => exact passes_map (passes_render site template) fun _ => trivial

theorem passes_requestContent (c : WebhookConfig) :
    (requestContent site c).Passes allowed (fun _ => True) Failure.IsOwn := by
  unfold requestContent
  split
  · exact passes_render site _
  · exact passes_ofExcept (Value.owned_written _ _)

theorem passes_sendEmail (c : EmailConfig) (logs : ∀ m, allowed (.logEmail m)) :
    (sendEmail site c).Passes allowed (fun _ => True) Failure.IsOwn := by
  refine passes_bind (passes_ofExcept (Template.owned_fieldText _ _)) fun recipient _ => ?_
  refine passes_bind (passes_render site _) fun subject _ => ?_
  refine passes_bind (passes_render site _) fun body _ => ?_
  exact passes_bind (passes_ask (logs _)) fun _ _ => passes_pure trivial

theorem passes_createTask (c : TaskConfig) (looks : allowed .now)
    (creates : ∀ t, allowed (.createTask t)) :
    (createTask site c).Passes allowed (fun _ => True) Failure.IsOwn := by
  refine passes_bind (passes_ask looks) fun now _ => ?_
  refine passes_bind (passes_ofExcept (owned_dueDate _ _)) fun due _ => ?_
  refine passes_bind (passes_render site _) fun title _ => ?_
  refine passes_bind (passes_render? site _) fun description _ => ?_
  exact passes_bind (passes_ask (creates _)) fun _ _ => passes_pure trivial

theorem passes_createActivity (c : ActivityConfig) (creates : ∀ a, allowed (.createActivity a)) :
    (createActivity site c).Passes allowed (fun _ => True) Failure.IsOwn := by
  refine passes_bind (passes_render site _) fun title _ => ?_
  refine passes_bind (passes_render? site _) fun description _ => ?_
  exact passes_bind (passes_ask (creates _)) fun _ _ => passes_pure trivial

theorem passes_decideBranch (c : BranchConfig) :
    (decideBranch site c).Passes allowed (fun _ => True) Failure.IsOwn :=
  passes_bind (passes_ofExcept (Condition.owned_evalAll _ _)) fun _ _ => passes_pure trivial

end Kinds

theorem isPlain_submit (d : Delivery) (headers : List (String × String)) (content : String) :
    (submit d headers content).IsPlain := by
  refine isPlain_bind (isPlain_ask rfl) fun now => isPlain_bind (isPlain_ask rfl) fun d => ?_
  exact isPlain_bind (isPlain_ask rfl) fun _ => isPlain_pure _

theorem isPlain_sendWebhook (site : Site) (actionId : Uid) (c : WebhookConfig) :
    (sendWebhook site actionId c).IsPlain :=
  isPlain_bind (passes_requestContent site c) fun _ =>
    isPlain_bind (isPlain_submit _ _ _) fun _ => isPlain_pure _

theorem isRoutine_assignOwner (site : Site) (c : OwnerConfig) : (assignOwner site c).IsRoutine := by
  refine passes_bind (Assignment.isSeeking_ownerFor _ _).isRoutine fun owner _ => ?_
  split
  · exact passes_bind (isRoutine_ask rfl) fun _ _ => passes_pure trivial
  · exact passes_pure trivial

theorem isReading_tagToChange (site : Site) (c : TagConfig) : (tagToChange site c).IsReading :=
  passes_bind (isReading_ask rfl) fun _ _ => passes_pure trivial

theorem isRoutine_addTag (site : Site) (c : TagConfig) : (addTag site c).IsRoutine := by
  refine passes_bind (isReading_tagToChange _ _).isSeeking.isRoutine fun name _ => ?_
  cases name with
  | none => exact passes_pure trivial
  | some name =>
      refine passes_bind (isRoutine_ask rfl) fun tag _ => ?_
      exact passes_bind (isRoutine_ask rfl) fun _ _ => passes_pure trivial

theorem isRoutine_removeTag (site : Site) (c : TagConfig) : (removeTag site c).IsRoutine := by
  refine passes_bind (isReading_tagToChange _ _).isSeeking.isRoutine fun name _ => ?_
  cases name with
  | none => exact passes_pure trivial
  | some name =>
      refine passes_bind (isRoutine_ask rfl) fun tag _ => ?_
      cases tag with
      | none => exact passes_pure trivial
      | some tag => exact passes_bind (isRoutine_ask rfl) fun _ _ => passes_pure trivial

/-- An action that is performed to its end has not failed. -/
theorem passes_perform (site : Site) (action : Action) (kind : ActionKind)
    (config : ActionConfig) : (perform site action kind config).Passes
      (fun r => r.isOfAction = true) (fun x => x.1 ≠ .failed) Failure.IsOwn := by
  have succeeds {p : Prog Value} (h : p.IsPlain) :
      ((fun v => (OutcomeStatus.success, v)) <$> p).Passes (fun r => r.isOfAction = true)
        (fun x => x.1 ≠ .failed) Failure.IsOwn := passes_map h fun _ => nofun
  cases config with
  | email c => exact succeeds (passes_sendEmail site c fun _ => rfl)
  | task c => exact succeeds (passes_createTask site c rfl fun _ => rfl)
  | field c => exact succeeds (isPlain_bind (isPlain_ask rfl) fun _ => isPlain_pure _)
  | webhook c => exact succeeds (isPlain_sendWebhook site action.id c)
  | owner c => exact succeeds (isRoutine_assignOwner site c).isPlain
  | tag c =>
      refine succeeds ?_
      split
      · exact (isRoutine_addTag site c).isPlain
      · exact (isRoutine_removeTag site c).isPlain
  | activity c => exact succeeds (passes_createActivity site c fun _ => rfl)
  | delay c => exact passes_pure nofun
  | branch c =>
      exact succeeds (isPlain_bind (isPlain_ofExcept (Condition.owned_evalAll _ _)) fun _ =>
        isPlain_pure _)

/-- An action is read and performed. -/
theorem passes_attempted (site : Site) (action : Action) (kind : ActionKind) :
    (Prog.ofExcept (ActionConfig.read kind action.config) >>= perform site action kind).Passes
      (fun r => r.isOfAction = true) (fun x => x.1 ≠ .failed) Failure.IsOwn :=
  passes_bind (passes_ofExcept (ActionConfig.owned_read kind action.config)) fun config _ =>
    passes_perform site action kind config

/-- An action asks for nothing but what an action may ask. -/
theorem ofAction_execute (site : Site) (action : Action) :
    (execute site action).Only fun r => r.isOfAction = true := by
  refine only_bind (only_ask rfl) fun _ => ?_
  cases action.kind with
  | foreign word => exact only_bind (only_ask rfl) fun _ => only_pure _
  | known kind =>
      refine only_bind (only_attempt (passes_attempted site action kind).only) fun ended => ?_
      cases ended with
      | ok x => exact only_pure _
      | error e => exact only_bind (only_ask rfl) fun _ => only_pure _

/-- Whatever an action does, it does aside and without a break. -/
theorem isPrompt_execute (site : Site) (action : Action) : (execute site action).IsPrompt :=
  (ofAction_execute site action).mono fun _ => Request.isPrompt_of_isOfAction

theorem isAside_execute (site : Site) (action : Action) : (execute site action).IsAside :=
  (isPrompt_execute site action).isAside

end Runner

namespace Deliver

theorem isAside_giveUp (d : Delivery) : (giveUp d).IsAside := by
  refine isAside_bind (isAside_ask rfl) fun now => isAside_bind (isAside_ask rfl) fun _ => ?_
  exact isAside_bind (isAside_ask rfl) fun _ => isAside_ask rfl

theorem isAside_arrive (d : Delivery) (status : Int) : (arrive d status).IsAside := by
  refine isAside_bind (isAside_ask rfl) fun now => isAside_bind (isAside_ask rfl) fun _ => ?_
  exact isAside_bind (isAside_ask rfl) fun _ => isAside_ask rfl

theorem isAside_waitForNext (settings : Settings) (d : Delivery) (attempt : Nat) :
    (waitForNext settings d attempt).IsAside := by
  refine isAside_bind (isAside_ask rfl) fun _ => isAside_bind (isAside_ask rfl) fun _ => ?_
  refine isAside_bind (isAside_ask rfl) fun _ => ?_
  exact isAside_bind (only_ofExcept _) fun _ => isAside_ask rfl

theorem isAside_exchange (job : QueuedDelivery) (d : Delivery) :
    (exchange job d).IsAside :=
  isAside_bind (isAside_ask rfl) fun _ => isAside_ask rfl

theorem isAside_attempts (settings : Settings) (job : QueuedDelivery) (d : Delivery)
    (attempt left : Nat) : (attempts settings job d attempt left).IsAside := by
  induction left generalizing d attempt with
  | zero => exact isAside_giveUp d
  | succ left ih =>
      refine isAside_bind (isAside_ask rfl) fun _ => ?_
      refine isAside_bind (isAside_exchange job _) fun outcome => ?_
      split
      · exact isAside_arrive _ _
      · refine isAside_bind (only_ofExcept _) fun d => ?_
        split
        · exact isAside_bind (isAside_waitForNext _ _ _) fun _ => ih _ _
        · exact isAside_giveUp d

/-- Whatever a delivery does, it does aside. -/
theorem isAside_background (settings : Settings) (job : QueuedDelivery) :
    (background settings job).IsAside := by
  refine isAside_bind (only_attempt (isAside_attempts ..)) fun ended => ?_
  cases ended with
  | ok _ => exact only_pure _
  | error f => exact isAside_bind (isAside_ask rfl) fun _ => isAside_ask rfl

end Deliver

/-! ## What a store lists -/

theorem assemble_flags {r : RelationalStore} {row : WorkflowRow} {w : Workflow}
    (h : r.assemble row = .ok w) : w.id = row.id ∧ w.runOnce = row.runOnce := by
  obtain ⟨status, _, h⟩ := ok_of_bind_ok h
  obtain ⟨triggers, _, h⟩ := ok_of_bind_ok h
  obtain ⟨actions, _, h⟩ := ok_of_bind_ok h
  obtain rfl := Except.ok.inj h
  exact ⟨rfl, rfl⟩

/-- A definition that is listed is one of the store's. -/
theorem mem_flags_of_listActive {s : Store} {t : String} {kind : Open TriggerKind}
    {ws : List (Filed Workflow)} (h : s.listActive t kind = .ok ws) {w : Filed Workflow}
    (mem : w ∈ ws) : (w.record.id, w.record.runOnce) ∈ s.flags := by
  cases s with
  | memory m =>
      obtain rfl := Except.ok.inj h
      have stored := (List.mem_filter.mp (Amount.mem_inOrder mem)).1
      exact List.mem_map_of_mem (f := fun w => (w.record.id, w.record.runOnce)) stored
  | relational r =>
      obtain ⟨vs, read, rfl⟩ := ok_of_map_ok h
      obtain ⟨v, hv, rfl⟩ := List.mem_map.mp mem
      obtain ⟨row, hrow, assembled⟩ := mem_of_mapM_ok read hv
      have stored := (List.mem_filter.mp (Amount.mem_inOrder hrow)).1
      obtain ⟨hid, hflag⟩ := assemble_flags assembled
      refine List.mem_map.mpr ⟨row, stored, ?_⟩
      rw [Store.copy, hid, hflag]

end RecordFlow
