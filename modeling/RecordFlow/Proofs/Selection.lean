/-
# Selection — which workflows a dispatch starts

A dispatch considers the listed workflows one after the other.  It starts, in
the order of the listing, those that are eligible and, if they are to run once,
free to run: `considerAll_run`.  Where it cannot be told whether a workflow is
eligible the dispatch stops, so a workflow may be kept from its start by the
conditions of one that is listed before it.

How the relational store makes its listing is not told here.
-/
import Mathlib.Data.List.TakeWhile
import RecordFlow.Proofs.Aside
import RecordFlow.Proofs.Sequential

namespace RecordFlow

/-! ## Triggers -/

namespace Trigger

variable {kind : Open TriggerKind} {context : Context}

/-- Whether it can be told that a trigger fires. -/
def isFired (kind : Open TriggerKind) (context : Context) (t : Trigger) : Bool :=
  match t.fires kind context with
  | .ok fires => fires
  | .error _ => false

theorem kind_of_isFired {t : Trigger} (h : t.isFired kind context = true) : t.kind = kind := by
  unfold isFired fires at h
  by_cases same : t.kind = kind
  · exact same
  · simp [same] at h

/-- Where it can be told whether any trigger fires, that is whether one of them is fired. -/
theorem anyFires_ok {ts : List Trigger} {b : Bool} (h : anyFires kind context ts = .ok b) :
    b = ts.any (·.isFired kind context) := by
  induction ts with
  | nil => exact (Except.ok.inj h).symm
  | cons t ts ih =>
      rw [anyFires] at h
      cases fires : t.fires kind context with
      | error f => rw [fires] at h; cases h
      | ok fired =>
          rw [fires] at h
          cases fired with
          | true =>
              obtain rfl := Except.ok.inj h
              simp [isFired, fires]
          | false => simpa [isFired, fires] using ih h

/-- A workflow with a trigger that is fired has a trigger for the kind of the event. -/
theorem hasTrigger_of_isFired {v : Workflow}
    (h : v.triggers.any (·.isFired kind context) = true) : v.hasTrigger kind = true := by
  obtain ⟨t, ht, fired⟩ := List.any_eq_true.mp h
  exact List.any_eq_true.mpr ⟨t, ht, by simpa using kind_of_isFired fired⟩

end Trigger

namespace Dispatch

open Prog (ask attempt run_ask_bind run_attempt_bind)

section

variable (kind : Open TriggerKind) (context : Context)

/-- Whether it can be told if a workflow is eligible. -/
def tells (v : Filed Workflow) : Bool :=
  match v.record.isEligible kind context with
  | .ok _ => true
  | .error _ => false

/-- Whether a workflow is eligible. -/
def fires (v : Filed Workflow) : Bool :=
  match v.record.isEligible kind context with
  | .ok eligible => eligible
  | .error _ => false

/-- Whether a workflow may run for the record of a context. -/
def isFree (w : World) (v : Filed Workflow) : Bool :=
  let key := keyFor v.record context
  !v.record.runOnce
    || key ∉ w.claimed && !w.store.hasCompleted key.workflowId key.entityType key.entityId

/-- Whether a workflow is started by a dispatch. -/
def selects (w : World) (v : Filed Workflow) : Bool := fires kind context v && isFree context w v

/-- The run as which a workflow is started. -/
def runOf (v : Filed Workflow) : QueuedRun :=
  { workflow := v, trigger := kind, context, key := keyFor v.record context }

/-- The world after workflows were started, with what has been logged. -/
def started (w : World) (vs : List (Filed Workflow)) (logs : List LogEntry) : World :=
  { w with
    claimed := w.claimed ++ (vs.filter (·.record.runOnce)).map (keyFor ·.record context)
    queue := w.queue ++ vs.map fun v => .run (runOf kind context v)
    logs }

end

variable {kind : Open TriggerKind} {context : Context} {w : World}

@[simp] theorem started_nil (logs : List LogEntry) :
    started kind context w [] logs = { w with logs } := by
  simp [started]

theorem started_one (v : Filed Workflow) :
    started kind context w [v] w.logs = { w with
      claimed := w.claimed ++ if v.record.runOnce then [keyFor v.record context] else []
      queue := w.queue ++ [.run (runOf kind context v)] } := by
  cases once : v.record.runOnce <;> simp [started, once]

theorem started_started (us vs : List (Filed Workflow)) (logs logs' : List LogEntry) :
    started kind context (started kind context w us logs) vs logs'
      = started kind context w (us ++ vs) logs' := by
  simp [started]

theorem tells_iff {v : Filed Workflow} :
    tells kind context v = true ↔ ∃ b, v.record.isEligible kind context = .ok b := by
  unfold tells
  cases v.record.isEligible kind context <;> simp

/-! ## One workflow -/

/-- The ledger can be looked at. -/
theorem answer_hasCompleted (spared : w.Spares "store.has_completed_execution") (key : RunKey) :
    w.answer (.hasCompleted key)
      = (.ok (w.store.hasCompleted key.workflowId key.entityType key.entityId), w) :=
  World.answer_of_spared rfl spared rfl rfl

theorem claim_run (spared : w.Spares "store.has_completed_execution") (key : RunKey) :
    (claim key).run w =
      if key ∉ w.claimed ∧ w.store.hasCompleted key.workflowId key.entityType key.entityId = false
      then (.ok true, { w with claimed := w.claimed ++ [key] }) else (.ok false, w) := by
  rw [claim, run_ask_bind, World.answer_claim]
  by_cases claimed : key ∈ w.claimed
  · simp only [claimed, if_true, not_true, false_and, if_false]
    rfl
  · simp only [claimed, if_false, not_false_iff, true_and]
    have looks := answer_hasCompleted (w := { w with claimed := w.claimed ++ [key] }) spared key
    show Prog.run (attempt (ask (.hasCompleted key)) >>= _) { w with claimed := _ } = _
    rw [run_attempt_bind, Prog.run_ask, looks]
    cases w.store.hasCompleted key.workflowId key.entityType key.entityId with
    | true =>
        have others : w.claimed.filter (· ≠ key) = w.claimed :=
          List.filter_eq_self.mpr fun k mem => by
            have : k ≠ key := fun same => claimed (same ▸ mem)
            simpa using this
        have released : (w.claimed ++ [key]).filter (· ≠ key) = w.claimed := by
          rw [List.filter_append, others]
          simp
        show Prog.run (ask (.release key) >>= _) { w with claimed := _ } = _
        rw [run_ask_bind, World.answer_release]
        show (Except.ok false, { w with claimed := (w.claimed ++ [key]).filter (· ≠ key) }) = _
        rw [released]
        rfl
    | false => rfl

theorem mayRun_run (spared : w.Spares "store.has_completed_execution") (v : Filed Workflow) :
    (mayRun v.record (keyFor v.record context)).run w = (.ok (isFree context w v),
      { w with claimed := w.claimed ++
          if isFree context w v && v.record.runOnce then [keyFor v.record context] else [] }) := by
  cases once : v.record.runOnce with
  | false => simp [mayRun, isFree, once]
  | true =>
      rw [mayRun, once, if_pos rfl, claim_run spared]
      by_cases free : isFree context w v = true
      · have passes := free
        simp only [isFree, once, Bool.not_true, Bool.false_or, Bool.and_eq_true, decide_eq_true_eq,
          Bool.not_eq_true'] at passes
        rw [if_pos passes, free]
        rfl
      · have refused := free
        simp only [isFree, once, Bool.not_true, Bool.false_or, Bool.and_eq_true, decide_eq_true_eq,
          Bool.not_eq_true'] at refused
        rw [if_neg refused]
        simp [Bool.not_eq_true _ ▸ free]

theorem consider_run {v : Filed Workflow} (spared : w.Spares "store.has_completed_execution")
    (told : tells kind context v = true) :
    ∃ logs, (consider kind context v).run w = (.ok (selects kind context w v),
      started kind context w (if selects kind context w v then [v] else []) logs) := by
  unfold tells at told
  rw [consider, Prog.run_bind, Prog.run_ofExcept]
  cases eligible : v.record.isEligible kind context with
  | error f => simp [eligible] at told
  | ok b =>
      cases b with
      | false =>
          have no : selects kind context w v = false := by simp [selects, fires, eligible]
          refine ⟨w.logs, ?_⟩
          rw [no]
          simp
      | true =>
          have chosen : selects kind context w v = isFree context w v := by
            simp [selects, fires, eligible]
          rw [chosen]
          show ∃ logs, (mayRun v.record (keyFor v.record context) >>= _).run w = _
          rw [Prog.run_bind, mayRun_run spared]
          cases free : isFree context w v with
          | true =>
              refine ⟨w.logs, ?_⟩
              rw [if_pos rfl, started_one, Bool.true_and]
              rfl
          | false =>
              refine ⟨w.logs ++ [skipped kind context v.record.id], ?_⟩
              rw [if_neg Bool.false_ne_true, started_nil, Bool.false_and,
                if_neg Bool.false_ne_true, List.append_nil]
              rfl

/-- Where it cannot be told whether a workflow is eligible, that is what its consideration comes
to. -/
theorem consider_run_error {v : Filed Workflow} (untold : tells kind context v = false) :
    ∃ f, (consider kind context v).run w = (.error f, w) := by
  unfold tells at untold
  rw [consider, Prog.run_bind, Prog.run_ofExcept]
  cases eligible : v.record.isEligible kind context with
  | ok b => simp [eligible] at untold
  | error f => exact ⟨f, rfl⟩

/-! ## All workflows of a listing -/

/-- The workflows of a listing that a dispatch starts. -/
def chosen (kind : Open TriggerKind) (context : Context) (w : World) (ws : List (Filed Workflow)) :
    List (Filed Workflow) :=
  (ws.takeWhile (tells kind context)).filter (selects kind context w)

/-- Whether a workflow is selected does not depend on others that were started. -/
theorem selects_started {vs : List (Filed Workflow)} {logs : List LogEntry} {v : Filed Workflow}
    (other : v.record.id ∉ vs.map (·.record.id)) :
    selects kind context (started kind context w vs logs) v = selects kind context w v := by
  have unclaimed : keyFor v.record context
      ∉ (vs.filter (·.record.runOnce)).map (keyFor ·.record context) := by
    intro h
    obtain ⟨u, hu, same⟩ := List.mem_map.mp h
    exact other (List.mem_map.mpr ⟨u, (List.mem_filter.mp hu).1, congrArg RunKey.workflowId same⟩)
  simp only [selects, isFree, started, List.mem_append, unclaimed, or_false]

theorem considerAll_run {ws : List (Filed Workflow)} (once : (ws.map (·.record.id)).Nodup)
    (spared : w.Spares "store.has_completed_execution") :
    ∃ logs, (considerAll kind context ws).run w
      = (.ok ((chosen kind context w ws).map (·.record.id)),
        started kind context w (chosen kind context w ws) logs) := by
  induction ws generalizing w with
  | nil => exact ⟨w.logs, by simp [considerAll, chosen]⟩
  | cons v ws ih =>
      obtain ⟨absent, once⟩ := List.nodup_cons.mp once
      rw [considerAll, Prog.run_attempt_bind]
      cases told : tells kind context v with
      | false =>
          obtain ⟨f, failed⟩ := consider_run_error told
          refine ⟨w.logs ++ [matchingFailed kind context f], ?_⟩
          have none : chosen kind context w (v :: ws) = [] := by simp [chosen, told]
          rw [failed, none, started_nil]
          rfl
      | true =>
          obtain ⟨logs, considered⟩ := consider_run spared told
          let us := if selects kind context w v then [v] else []
          have same : chosen kind context (started kind context w us logs) ws
              = chosen kind context w ws := by
            refine List.filter_congr ?_
            intro u hu
            refine selects_started ?_
            intro h
            obtain ⟨v', hv', same⟩ := List.mem_map.mp h
            obtain rfl : v' = v := by
              cases sel : selects kind context w v with
              | true => simpa [us, sel] using hv'
              | false => simp [us, sel] at hv'
            exact absent (List.mem_map.mpr ⟨u, (List.takeWhile_sublist _).mem hu, same.symm⟩)
          have both : us ++ chosen kind context w ws = chosen kind context w (v :: ws) := by
            cases sel : selects kind context w v <;> simp [us, chosen, told, sel]
          obtain ⟨logs', rest⟩ := ih once (w := started kind context w us logs) spared
          rw [same, started_started, both] at rest
          refine ⟨logs', ?_⟩
          rw [considered]
          show Prog.run (considerAll kind context ws >>= _) (started kind context w us logs) = _
          rw [Prog.run_bind, rest, ← both]
          cases sel : selects kind context w v <;> simp [us, sel]

/-! ## A dispatch -/

theorem listActive_stable {m : MemoryStore} (kind : Open TriggerKind) (context : Context)
    (placed : ∀ v ∈ m.workflows, v.record.runOrder.isPlaced = true) :
    Amount.StableOrder (fun v : Filed Workflow => v.record.runOrder)
      (m.workflows.filter fun v => MemoryStore.isCandidate context.entityType kind v.record)
      (m.listActive context.entityType kind) :=
  Amount.inOrder_stable fun v hv => placed v (List.mem_filter.mp hv).1

/-- In memory, every active workflow for the kind of the record that is eligible is listed. -/
theorem mem_listActive {m : MemoryStore} {v : Filed Workflow}
    (placed : ∀ v ∈ m.workflows, v.record.runOrder.isPlaced = true) (stored : v ∈ m.workflows)
    (active : v.record.isActive = true) (same : v.record.entityType = context.entityType)
    (eligible : v.record.isEligible kind context = .ok true) :
    v ∈ m.listActive context.entityType kind := by
  refine (listActive_stable kind context placed).perm.mem_iff.mpr (List.mem_filter.mpr ⟨stored, ?_⟩)
  have has := Trigger.hasTrigger_of_isFired (Trigger.anyFires_ok eligible).symm
  simp [MemoryStore.isCandidate, active, same, has]

theorem listActive_single {m : MemoryStore} {v : Filed Workflow} (only : m.workflows = [v])
    (placed : v.record.runOrder.isPlaced = true)
    (candidate : MemoryStore.isCandidate context.entityType kind v.record = true) :
    m.listActive context.entityType kind = [v] := by
  have kept : m.workflows.filter
      (fun w => MemoryStore.isCandidate context.entityType kind w.record) = [v] := by
    simp [only, candidate]
  rw [MemoryStore.listActive, kept]
  exact Amount.inOrder_of_rising (by simpa using placed) (List.pairwise_singleton _ _)

/-- A dispatch, where the store can be asked, starts the workflows that are chosen from the
store's listing and tells whose they are. -/
theorem dispatch_run {ws : List (Filed Workflow)}
    (listing : w.Spares "store.list_active_workflows")
    (ledger : w.Spares "store.has_completed_execution")
    (listed : w.store.listActive context.entityType kind = .ok ws)
    (once : (ws.map (·.record.id)).Nodup) :
    ∃ logs, (dispatch kind context).run w
      = (.ok ((chosen kind context w ws).map (·.record.id)),
        started kind context w (chosen kind context w ws) logs) := by
  have answered : w.answer (.listActive context.entityType kind) = (.ok ws, w) := by
    rw [World.answer_of_spared rfl listing rfl rfl]
    exact congrArg (·, w) listed
  rw [dispatch, Prog.run_attempt_bind, Prog.run_ask, answered]
  exact considerAll_run once ledger

/-- A workflow behind others in a listing is chosen just when the others can be told and it is
selected itself. -/
theorem mem_ids_chosen {before after : List (Filed Workflow)} {v : Filed Workflow}
    (once : ((before ++ v :: after).map (·.record.id)).Nodup)
    (sel : selects kind context w v = true) (told : tells kind context v = true) :
    v.record.id ∈ (chosen kind context w (before ++ v :: after)).map (·.record.id)
      ↔ ∀ u ∈ before, tells kind context u = true := by
  have apart : ∀ u ∈ before, u.record.id ≠ v.record.id := by
    rw [List.map_append, List.nodup_append] at once
    intro u hu
    exact once.2.2 _ (List.mem_map_of_mem hu) _ (by simp)
  constructor
  · intro mem
    obtain ⟨u, hu, same⟩ := List.mem_map.mp mem
    refine Classical.byContradiction ?_
    intro untold
    -- the listing is cut among those before, so what is chosen is one of them
    have stops : (before ++ v :: after).takeWhile (tells kind context)
        = before.takeWhile (tells kind context) := by
      rw [List.takeWhile_append, if_neg]
      intro length
      have all := (List.takeWhile_sublist _).eq_of_length length
      exact untold (List.takeWhile_eq_self_iff.mp all)
    have here := (List.mem_filter.mp hu).1
    rw [stops] at here
    exact apart u ((List.takeWhile_sublist _).mem here) same
  · intro all
    refine List.mem_map.mpr ⟨v, List.mem_filter.mpr ⟨?_, sel⟩, rfl⟩
    rw [List.takeWhile_append_of_pos all, List.takeWhile_cons_of_pos told]
    exact List.mem_append_right _ List.mem_cons_self

/-- The store can be asked and lists a workflow that is eligible, among others of which it can be
told whether they are. -/
structure Offers (kind : Open TriggerKind) (context : Context) (w : World) (v : Filed Workflow) :
    Prop where
  listing : w.Spares "store.list_active_workflows"
  ledger : w.Spares "store.has_completed_execution"
  listed : ∃ ws, w.store.listActive context.entityType kind = .ok ws ∧ v ∈ ws ∧
    (ws.map (·.record.id)).Nodup ∧ ∀ u ∈ ws, ∃ b, u.record.isEligible kind context = .ok b
  eligible : v.record.isEligible kind context = .ok true

/-- A workflow that is offered and free to run is started. -/
theorem Offers.started {v : Filed Workflow} (h : Offers kind context w v)
    (free : isFree context w v = true) :
    ∃ ids w', (dispatch kind context).run w = (.ok ids, w') ∧ v.record.id ∈ ids ∧
      .run (runOf kind context v) ∈ w'.queue := by
  obtain ⟨ws, listed, mem, once, told⟩ := h.listed
  obtain ⟨logs, ran⟩ := dispatch_run h.listing h.ledger listed once
  have all : ws.takeWhile (tells kind context) = ws :=
    List.takeWhile_eq_self_iff.mpr fun u hu => tells_iff.mpr (told u hu)
  have sel : selects kind context w v = true := by simp [selects, fires, h.eligible, free]
  have chosen : v ∈ chosen kind context w ws := by
    rw [chosen, all]
    exact List.mem_filter.mpr ⟨mem, sel⟩
  refine ⟨_, _, ran, List.mem_map_of_mem chosen, ?_⟩
  exact List.mem_append_right _ (List.mem_map.mpr ⟨v, chosen, rfl⟩)

/-- A workflow of the listing that is eligible, and that need not run only once, is started just
when it can be told of every workflow listed before it whether that one is eligible: no other
trigger or condition matters, but one that cannot be told keeps all behind it from being started.
In memory, every eligible workflow that is active and for the kind of the record is listed. -/
theorem started_iff_told_before {ws : List (Filed Workflow)}
    (listing : w.Spares "store.list_active_workflows")
    (ledger : w.Spares "store.has_completed_execution")
    (listed : w.store.listActive context.entityType kind = .ok ws)
    (once : (ws.map (·.record.id)).Nodup) :
    (∃ (vs : List (Filed Workflow)) (w' : World),
      (dispatch kind context).run w = (.ok (vs.map (·.record.id)), w') ∧
      w'.queue = w.queue ++ vs.map (fun u => .run (runOf kind context u)) ∧
      ∀ before v after, ws = before ++ v :: after →
        v.record.isEligible kind context = .ok true → v.record.runOnce = false →
          (v.record.id ∈ vs.map (·.record.id)
            ↔ ∀ u ∈ before, ∃ b, u.record.isEligible kind context = .ok b)) ∧
    ∀ m, w.store = .memory m → (∀ v ∈ m.workflows, v.record.runOrder.isPlaced = true) →
      ∀ v ∈ m.workflows, v.record.isActive = true → v.record.entityType = context.entityType →
        v.record.isEligible kind context = .ok true → v ∈ ws := by
  constructor
  · obtain ⟨logs, ran⟩ := dispatch_run listing ledger listed once
    refine ⟨_, _, ran, rfl, ?_⟩
    rintro before v after rfl eligible plain
    have sel : selects kind context w v = true := by simp [selects, fires, isFree, eligible, plain]
    have told : tells kind context v = true := by simp [tells, eligible]
    rw [mem_ids_chosen once sel told]
    exact forall₂_congr fun _ _ => tells_iff
  · intro m memory placed v stored active same eligible
    rw [memory] at listed
    obtain rfl := Except.ok.inj listed
    exact mem_listActive placed stored active same eligible

/-- A workflow for the deals that are worth more than one. -/
def forWorthy : Filed Workflow := Store.copy {
  id := ⟨1⟩
  entityType := "deal"
  status := .known .active
  triggers := [
    { kind := .known .recordUpdated, conditions := [⟨"worth", .known .greaterThan, .int 1⟩] }] }

/-- A workflow for all deals. -/
def forAll : Filed Workflow := Store.copy {
  id := ⟨2⟩
  entityType := "deal"
  status := .known .active
  triggers := [{ kind := .known .recordUpdated }] }

/-- A deal that is worth more than any floating-point number. -/
def vastDeal : Context :=
  { entityType := "deal", entityId := "d", entity := [("worth", .int (Int.pow 10 400))] }

/-- A world whose store holds both workflows. -/
def worthyFirst : World where
  store := .memory { workflows := [forWorthy, forAll] }

/-- A workflow for all deals is not started for a vast deal, where one is listed before it that
asks for the worth. -/
theorem forAll_not_started :
    worthyFirst.Spares "store.list_active_workflows" ∧
      worthyFirst.Spares "store.has_completed_execution" ∧
      worthyFirst.store.listActive vastDeal.entityType (.known .recordUpdated)
        = .ok [forWorthy, forAll] ∧
      ([forWorthy, forAll].map (·.record.id)).Nodup ∧
      (∀ v ∈ [forWorthy, forAll], v.record.runOrder.isPlaced = true) ∧
      forAll.record.isActive = true ∧ forAll.record.entityType = vastDeal.entityType ∧
      forAll.record.isEligible (.known .recordUpdated) vastDeal = .ok true ∧
      forAll.record.runOnce = false ∧ forAll ∈ [forWorthy, forAll] ∧
      ∃ (vs : List (Filed Workflow)) (w' : World),
        (dispatch (.known .recordUpdated) vastDeal).run worthyFirst
          = (.ok (vs.map (·.record.id)), w') ∧
        forAll.record.id ∉ vs.map (·.record.id) := by
  have listing : worthyFirst.Spares "store.list_active_workflows" := List.not_mem_nil
  have ledger : worthyFirst.Spares "store.has_completed_execution" := List.not_mem_nil
  have placed : ∀ v ∈ [forWorthy, forAll], v.record.runOrder.isPlaced = true := by decide
  have sorted : Workflow.inRunOrder Filed.record [forWorthy, forAll] = [forWorthy, forAll] :=
    Amount.inOrder_of_rising placed (by decide +kernel)
  have listed : worthyFirst.store.listActive vastDeal.entityType (.known .recordUpdated)
      = .ok [forWorthy, forAll] := congrArg Except.ok sorted
  have once : ([forWorthy, forAll].map (·.record.id)).Nodup := by decide
  have untold : tells (.known .recordUpdated) vastDeal forWorthy = false := by decide +kernel
  obtain ⟨⟨vs, w', ran, _, iff⟩, lists⟩ := started_iff_told_before listing ledger listed once
  have mem := lists _ rfl placed forAll (by simp) rfl rfl rfl
  refine ⟨listing, ledger, listed, once, placed, rfl, rfl, rfl, rfl, mem, vs, w', ran, ?_⟩
  intro started
  have told := tells_iff.mpr ((iff [forWorthy] forAll [] rfl rfl rfl).mp started forWorthy
    List.mem_cons_self)
  exact Bool.false_ne_true (untold.symm.trans told)

end Dispatch
end RecordFlow
