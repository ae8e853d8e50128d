/-
# Sessions — an engine worked with step by step

A session does one thing after another with an engine: it dispatches changes,
runs workflows, asks the collaborators, makes sites fail, lets the clock go on,
waits for the work in the background.  Every step has a reply and leaves
traces; what a step cannot do is its failure, and the session goes on.
-/
import RecordFlow.Assembly

namespace RecordFlow.Session

open Prog (ask)

/-- The change a step is about; a snapshot takes the fields from the record as it is. -/
structure Subject where
  context : Context
  snapshot : Bool := false
deriving Repr, Inhabited

/-- One step of a session. -/
inductive Step where
  | dispatch (kind : Open TriggerKind) (subject : Subject) (drain : Bool)
  | execute (workflowId : Uid) (kind : Open TriggerKind) (subject : Subject)
      (triggeredBy : Option String)
  /-- Runs a definition at hand, whatever the store holds. -/
  | run (handle : String) (kind : Open TriggerKind) (subject : Subject)
      (triggeredBy : Option String)
  | runAction (action : Action) (subject : Subject) (workflowId : Option Uid)
      (executionId : Option RecordId)
  /-- Applies a rule several times, one after the other. -/
  | resolve (rule : String) (times : Nat) (subject : Subject)
  /-- Applies a rule several times at once; the picks are told in order of their texts. -/
  | resolveTogether (rule : String) (times : Nat) (subject : Subject)
  | ownerFor (config : OwnerConfig) (subject : Subject)
  | pool (rule : String)
  | submit (delivery : Delivery) (headers : List (String × String)) (content : String)
  | drain
  | drainRuns
  | cancelDeliveries
  | cancelRuns
  | shutDown
  | advance (seconds : Amount)
  | fault (f : Fault)
  | clearFaults
  | addWorkflow (handle : String) (w : Workflow) (stored : Bool)
  | addRule (handle : String) (r : AssignmentRule) (stored : Bool)
  | editWorkflow (handle : String) (edit : Workflow → Workflow)
  | editRule (handle : String) (edit : AssignmentRule → AssignmentRule)
  /-- Asks a collaborator. -/
  | request (r : Request)
  | registerAdapter (a : Adapter)
  | unregisterAdapter (entityType : String)
  | hasAdapter (entityType : String)
  | entityTypes
  | getAdapter (entityType : String)
  | findAdapter (entityType : String)
  | state

/-- What the state of an engine shows. -/
structure State where
  workflows : List Workflow
  executions : List Execution
  /-- The rules at hand with their cursors and those of the stored rules. -/
  rules : List (String × Int × Option Int)
  deliveries : List Delivery
  tagNames : List String
  adapters : List Adapter
  claimed : Nat
  pendingRuns : Nat
  pendingDeliveries : Nat
deriving Repr

/-- What a step replies. -/
inductive Reply where
  | nothing
  | dispatched (started : List Uid) (pending : Nat)
  | executionId (id : RecordId)
  | execution (e : Execution)
  | outcome (o : ActionOutcome)
  | picks (users : List (Option String)) (cursor : Int)
  | owner (user : Option String)
  | texts (xs : List String)
  | submitted (d : Delivery) (pending : Nat)
  | drained (runs deliveries : Nat)
  | cancelled (count : Nat)
  | clientClosed (closed : Bool)
  | time (t : Instant)
  | flag (b : Bool)
  | adapter (a : Option Adapter)
  | answer (r : Request) (x : r.Answer)
  | state (s : State)

/-! ## State -/

/-- The executions in a store: all that memory holds, or those of the known workflows. -/
def executionsOf (store : Store) (known : List Uid) : Except Failure (List Execution) :=
  match store with
  | .memory m => .ok m.executions
  | .relational r => List.flatten <$> known.mapM r.listExecutions

/-- A rule at hand with its cursor and that of the stored rule. -/
def cursorsOf (store : Store) (handle : String) (rule : AssignmentRule) :
    Except Failure (String × Int × Option Int) := do
  let stored ← store.getRule rule.id
  return (handle, rule.cursor, stored.map (·.record.cursor))

/-- What the state of an engine shows; faults have no part in it. -/
def stateOf (e : Engine) : Except Failure State := do
  let w := e.world
  let known := w.definitions.map (·.2.record.id)
  let workflows ← known.mapM w.store.getWorkflow
  let executions ← executionsOf w.store known
  let rules ← w.rules.mapM fun (handle, r) => cursorsOf w.store handle r.record
  return {
    workflows := workflows.filterMap fun w => w.map (·.record)
    executions
    rules
    deliveries := w.saved
    tagNames := w.services.tagNames
    adapters := w.registry
    claimed := w.claimed.length
    pendingRuns := w.pendingRuns
    pendingDeliveries := w.pendingDeliveries }

/-! ## Steps -/

/-- The context of a step: as it is given, or with the fields of the record as it is. -/
def contextOf (s : Subject) : Prog Context :=
  if s.snapshot then do
    let fields ← ask (.snapshot s.context.entityType s.context.entityId)
    return { s.context with entity := fields.getD [] }
  else pure s.context

/-- Texts in order; a missing text has no order among others. -/
def inOrder (xs : List (Option String)) : Except Failure (List (Option String)) :=
  if 2 ≤ xs.length && xs.contains none then .error .unsuited
  else .ok (xs.mergeSort fun a b => !decide (b.getD "" < a.getD ""))

/-- The reply to a program and the engine after it. -/
def replying {α : Type} (e : Engine) (p : Prog α) (reply : α → Reply) :
    Except Failure Reply × Engine :=
  let (x, e) := e.perform p
  (reply <$> x, e)

/-- The reply of a change to the engine that may fail. -/
def changing (after : Except Failure Unit × Engine) : Except Failure Reply × Engine :=
  ((fun _ => .nothing) <$> after.1, after.2)

/-- The reply of an edit of what is at hand. -/
def editing {α : Type} (e : Engine) (held : Except Failure (Filed α))
    (edit : Option Nat → World) : Except Failure Reply × Engine :=
  match held with
  | .ok r => (.ok .nothing, e.withWorld (edit r.slot))
  | .error f => (.error f, e)

/-- The picks of a rule with its present cursor. -/
def picked (e : Engine) (handle : String) (users : List (Option String)) :
    Except Failure Reply := do
  return .picks users (← e.rule handle).record.cursor

/-- Applies a rule several times one after the other, each time to the record as it is; the
first failure ends it. -/
def resolveTimes (e : Engine) (handle : String) (subject : Subject) :
    (times : Nat) → Except Failure (List (Option String)) × Engine
  | 0 => ((fun _ => []) <$> e.rule handle, e)
  | times + 1 =>
    let program := do
      let rule ← Prog.ofExcept (e.rule handle)
      Assignment.resolve rule (← contextOf subject)
    match e.perform program with
    | (.error f, e) => (.error f, e)
    | (.ok user, e) =>
      let (rest, e) := resolveTimes e handle subject times
      ((user :: ·) <$> rest, e)

/-- Applies a rule several times at once to the same record.  All of them come to their end,
also when one fails; the first failure is told. -/
def resolveAll (e : Engine) (rule : Filed AssignmentRule) (context : Context) :
    (times : Nat) → Except Failure (List (Option String)) × Engine
  | 0 => (.ok [], e)
  | times + 1 =>
    let (first, e) := e.perform (Assignment.resolve rule context)
    let (rest, e) := resolveAll e rule context times
    (do return (← first) :: (← rest), e)

/-- The reply of applications of a rule one after the other. -/
def resolving (e : Engine) (handle : String) (times : Nat) (subject : Subject) :
    Except Failure Reply × Engine :=
  let (picks, e) := resolveTimes e handle subject times
  (picks >>= picked e handle, e)

/-- The reply of applications of a rule at once. -/
def resolvingTogether (e : Engine) (handle : String) (times : Nat) (subject : Subject) :
    Except Failure Reply × Engine :=
  match e.rule handle with
  | .error f => (.error f, e)
  | .ok rule =>
    match e.perform (contextOf subject) with
    | (.error f, e) => (.error f, e)
    | (.ok context, e) =>
      let (picks, e) := resolveAll e rule context times
      (picks >>= inOrder >>= picked e handle, e)

/-- The reply when the clock goes on. -/
def advancing (e : Engine) (seconds : Amount) : Except Failure Reply × Engine :=
  match Instant.spanOfSeconds seconds with
  | .error problem => (.error (.badSpan problem), e)
  | .ok span =>
    match e.world.clock.shift? span with
    | some clock => (.ok (.time clock), e.withWorld { e.world with clock })
    | none => (.error .dateOutOfRange, e)

/-- The engine with a part of its pending work taken away unbegun, and how much it was. -/
def cancelling (e : Engine) (gone : Background → Bool) : Except Failure Reply × Engine :=
  let count := (e.world.queue.filter gone).length
  let e := e.withWorld { e.world with queue := e.world.queue.filter (!gone ·) }
  (.ok (.cancelled count), e.drain)

/-- Does one step. -/
def step (e : Engine) : Step → Except Failure Reply × Engine
  | .dispatch kind subject drain =>
    let program := do Dispatch.dispatch kind (← contextOf subject)
    match e.perform program with
    | (.error f, e) => (.error f, e)
    | (.ok started, e) =>
      (.ok (.dispatched started e.world.pendingRuns), if drain then e.drain else e)
  | .execute id kind subject actor =>
    replying e (do Run.runById e.settings id kind (← contextOf subject) actor) .executionId
  | .run handle kind subject actor =>
    let program := do
      let workflow ← Prog.ofExcept (e.definition handle)
      Run.run e.settings workflow.record kind (← contextOf subject) actor
    replying e program .execution
  | .runAction action subject workflowId executionId =>
    let program := do
      let context ← contextOf subject
      Runner.execute { settings := e.settings, context, workflowId, executionId } action
    replying e program .outcome
  | .resolve handle times subject => resolving e handle times subject
  | .resolveTogether handle times subject => resolvingTogether e handle times subject
  | .ownerFor config subject =>
    replying e (do Assignment.ownerFor config (← contextOf subject)) .owner
  | .pool handle =>
    replying e (do Assignment.candidatePool (← Prog.ofExcept (e.rule handle)).record) .texts
  | .submit delivery headers content =>
    match e.perform (Runner.submit delivery headers content) with
    | (.error f, e) => (.error f, e)
    | (.ok d, e) => (.ok (.submitted d e.world.pendingDeliveries), e)
  | .drain =>
    let e := e.drain
    (.ok (.drained e.world.pendingRuns e.world.pendingDeliveries), e)
  | .drainRuns => (.ok .nothing, e.drain)
  | .cancelDeliveries => cancelling e (!·.isRun)
  | .cancelRuns => cancelling e Background.isRun
  | .shutDown =>
    let e := e.shutDown
    (.ok (.clientClosed e.world.clientClosed), e)
  | .advance seconds => advancing e seconds
  | .fault f => (.ok .nothing, e.withWorld { e.world with faults := e.world.faults ++ [f] })
  | .clearFaults => (.ok .nothing, e.withWorld { e.world with faults := [] })
  | .addWorkflow handle w stored => changing (e.addWorkflow handle w stored)
  | .addRule handle r stored => changing (e.addRule handle r stored)
  | .editWorkflow handle edit =>
    editing e (e.definition handle) fun slot => e.world.editWorkflow slot edit
  | .editRule handle edit => editing e (e.rule handle) fun slot => e.world.editRule slot edit
  | .request r => replying e (ask r) (.answer r)
  | .registerAdapter a => (.ok .nothing, e.withWorld (e.world.withAdapter a))
  | .unregisterAdapter t =>
    (.ok .nothing, e.withWorld { e.world with registry := e.world.registry.unregister t })
  | .hasAdapter t => (.ok (.flag (e.world.registry.adapter? t).isSome), e)
  | .entityTypes => (.ok (.texts e.world.registry.entityTypes), e)
  | .getAdapter t => ((fun a => .adapter (some a)) <$> e.world.registry.adapter t, e)
  | .findAdapter t => (.ok (.adapter (e.world.registry.adapter? t)), e)
  | .state => (.state <$> stateOf e, e)

/-! ## Traces -/

/-- What a step left behind. -/
structure Traces where
  tasks : List TaskRecord
  emails : List EmailRecord
  activities : List ActivityRecord
  events : List (RunEvent × Execution)
  logs : List LogEntry
  wire : List (String × WireEntry)
deriving Repr

/-- What there is in one world that was not yet there in an earlier one. -/
def traces (before after : World) : Traces where
  tasks := after.services.tasks.drop before.services.tasks.length
  emails := after.services.emails.drop before.services.emails.length
  activities := after.services.activities.drop before.services.activities.length
  events := after.events.drop before.events.length
  logs := after.logs.drop before.logs.length
  wire := after.wire.drop before.wire.length

end RecordFlow.Session
