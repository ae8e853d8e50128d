/-
# World — everything around the engine, and its answers

The world holds the store, the collaborators, the book of background work and
the traces of what was done.  It answers one request at a time.  A site of the
world can be made to fail: the faults of a site are asked before the site
acts, and a call that fails changes nothing else.
-/
import RecordFlow.Engine.Program

namespace RecordFlow

/-- A failure that the calls of a site are to meet. -/
structure Fault where
  site : String
  failure : Failure
  /-- How many calls are still to fail; without a number, all of them. -/
  remaining : Option Nat := some 1
  /-- How many calls are let through first. -/
  skip : Nat := 0
deriving Repr

namespace Fault

/-- Whether a fault has failed all the calls it was to fail. -/
def isExhausted (f : Fault) : Bool := f.remaining = some 0

/-- The fault after one more call that it failed. -/
def spent (f : Fault) : Fault := { f with remaining := f.remaining.map (· - 1) }

/-- What a call of a site meets, and the faults after it.  The first fault of the site that
still skips or is not exhausted decides: it lets the call through while it skips, and fails it
after that. -/
def meet (site : String) : List Fault → Option Failure × List Fault
  | [] => (none, [])
  | f :: fs =>
    if f.site = site && f.skip ≠ 0 then (none, { f with skip := f.skip - 1 } :: fs)
    else if f.site = site && !f.isExhausted then (some f.failure, f.spent :: fs)
    else
      let (met, rest) := meet site fs
      (met, f :: rest)

end Fault

/-- What went over the wire, or was waited for, in a delivery. -/
inductive WireEntry where
  | request (method : String) (headers : List (String × String)) (content : String)
  | pause (delay : Binary64)
deriving Repr

/-- Everything around the engine. -/
structure World where
  store : Store := .memory {}
  services : Services := {}
  registry : Registry := []
  /-- The definitions at hand by their handles, in the order in which they became known. -/
  definitions : List (String × Filed Workflow) := []
  /-- The rules at hand by their handles. -/
  rules : List (String × Filed AssignmentRule) := []
  /-- The next free slot. -/
  nextSlot : Nat := 0
  /-- How many executions were given an identifier. -/
  issued : Nat := 0
  /-- The executions that were created, in order. -/
  created : List RecordId := []
  /-- The deliveries as first saved, in order, with what has become of them. -/
  saved : List Delivery := []
  /-- The keys of run-once workflows that are claimed. -/
  claimed : List RunKey := []
  /-- The work started in the background that has not begun, in order. -/
  queue : List Background := []
  /-- How many more requests may be in flight. -/
  permits : Nat := 20
  /-- How many requests are in flight. -/
  inFlight : Nat := 0
  /-- How the requests to each address end, one after the other, the last way for ever. -/
  script : List (String × List Exchange) := []
  clientClosed : Bool := false
  clock : Instant := { civil := 0 }
  /-- Whether an event bus is connected. -/
  hasBus : Bool := false
  faults : List Fault := []
  events : List (RunEvent × Execution) := []
  logs : List LogEntry := []
  wire : List (String × WireEntry) := []
deriving Repr, Inhabited

/-! ## Sites -/

/-- The site that a request calls, by its dotted name.  Only what the engine itself calls is a
site. -/
def Request.site? : Request → Option String
  | listActive .. => some "store.list_active_workflows"
  | getWorkflow _ => some "store.get_workflow"
  | recordRun .. => some "store.record_workflow_run"
  | hasCompleted _ => some "store.has_completed_execution"
  | openExecution _ => some "store.create_execution"
  | createExecution _ => some "store.create_execution"
  | finishExecution _ => some "store.finish_execution"
  | getExecution _ => some "store.get_execution"
  | listExecutions _ => some "store.list_executions"
  | listEntityExecutions .. => some "store.list_entity_executions"
  | getRule _ => some "store.get_assignment_rule"
  | advanceRotation .. => some "store.advance_rotation"
  | openDelivery _ => some "store.save_webhook_delivery"
  | saveDelivery _ => some "store.save_webhook_delivery"
  | fileDelivery _ => some "store.save_webhook_delivery"
  | createTask _ => some "services.create_task"
  | createActivity _ => some "services.create_activity"
  | logEmail _ => some "services.log_outbound_email"
  | upsertTag _ => some "services.upsert_tag"
  | findTag _ => some "services.find_tag"
  | teamMembers _ => some "services.resolve_team_members"
  | snapshot t _ => some ("adapter." ++ t ++ ".get_snapshot")
  | updateField t .. => some ("adapter." ++ t ++ ".update_field")
  | countOwned t _ => some ("adapter." ++ t ++ ".count_owned_records")
  | connectTag t .. => some ("adapter." ++ t ++ ".connect_tag")
  | disconnectTag t .. => some ("adapter." ++ t ++ ".disconnect_tag")
  | emit event _ => some ("bus." ++ event.text)
  | enterRunner => some "runner.execute"
  | _ => none

namespace World

/-- Why a request cannot even reach its site. -/
def unreachable? (w : World) : Request → Option Failure
  | .snapshot t _ | .updateField t .. | .countOwned t _ =>
    if (w.registry.adapter? t).isSome then none else some (.adapterNotFound t)
  | .connectTag t .. | .disconnectTag t .. =>
    match w.registry.adapter? t with
    | some a => if a.taggable then none else some .noSuchOperation
    | none => some (.adapterNotFound t)
  | .beginExchange .. => if w.clientClosed then some .clientClosed else none
  | _ => none

/-- Whether a request has someone to go to; without a bus nothing is told to it. -/
def isAddressed (w : World) : Request → Bool
  | .emit .. => w.hasBus
  | _ => true

/-- Whether a request can be answered now; one that needs a permit waits for it. -/
def isReady (w : World) : Request → Bool
  | .beginExchange .. => w.permits ≠ 0
  | _ => true

/-! ## Shared records -/

/-- An edit of the definition in a slot, seen by all that hold it. -/
def editWorkflow (w : World) (slot : Option Nat) (f : Workflow → Workflow) : World :=
  let edit := fun (d : Filed Workflow) => (Filed.editAll slot f [d]).headD d
  let editBackground := fun
    | Background.run q => Background.run { q with workflow := edit q.workflow }
    | b => b
  { w with
    store := w.store.editWorkflow slot f
    definitions := w.definitions.map fun (handle, d) => (handle, edit d)
    queue := w.queue.map editBackground }

/-- An edit of the rule in a slot, seen by all that hold it. -/
def editRule (w : World) (slot : Option Nat) (f : AssignmentRule → AssignmentRule) : World :=
  let edit := fun (r : Filed AssignmentRule) => (Filed.editAll slot f [r]).headD r
  { w with
    store := w.store.editRule slot f
    rules := w.rules.map fun (key, r) => (key, edit r) }

/-- A rule with its cursor at a place. -/
def atPlace (place : Int) (r : AssignmentRule) : AssignmentRule := { r with cursor := place }

/-- The present cursor of a rule at hand. -/
def cursorOf (w : World) (rule : Filed AssignmentRule) : Int :=
  match w.rules.find? fun r => r.2.slot.isSome && r.2.slot = rule.slot with
  | some r => r.2.record.cursor
  | none => rule.record.cursor

/-! ## Answers -/

/-- The next way in which a request to an address ends, and the script after it. -/
def nextExchange (url : String) (script : List (String × List Exchange)) :
    Exchange × List (String × List Exchange) :=
  match script.lookup url with
  | some (x :: y :: rest) => (x, Keyed.put Prod.fst (url, y :: rest) script)
  | some [x] => (x, script)
  | _ => (.answered 200, script)

/-- The adapter of a kind after a change, in the registry. -/
def withAdapter (w : World) (a : Adapter) : World :=
  { w with registry := w.registry.register a }

/-- The world with another store. -/
def withStore (w : World) (s : Store) : World := { w with store := s }

/-- The answer of an operation that changes the store, and the world after it; what the store
has changed stays changed also where the operation fails. -/
def storing {α : Type} (w : World) (answer : α) (after : Except Failure Unit × Store)
    (also : World → World) : Except Failure α × World :=
  match after with
  | (.ok _, s) => (.ok answer, also (w.withStore s))
  | (.error e, s) => (.error e, w.withStore s)

/-- The answer of an operation that only reads. -/
def reading {α : Type} (w : World) (answer : Except Failure α) : Except Failure α × World :=
  (answer, w)

/-- The answer of an operation of the services. -/
def serving {α : Type} (w : World) (x : α × Services) : Except Failure α × World :=
  (.ok x.1, { w with services := x.2 })

/-- The answer of an operation of an adapter that reads. -/
def adapting {α : Type} (w : World) (entityType : String) (f : Adapter → Except Failure α) :
    Except Failure α × World :=
  (w.registry.adapter entityType >>= f, w)

/-- The answer of an operation of an adapter that changes it. -/
def patching (w : World) (entityType : String) (f : Adapter → Except Failure Adapter) :
    Except Failure Unit × World :=
  match w.registry.adapter entityType >>= f with
  | .ok a => (.ok (), w.withAdapter a)
  | .error e => (.error e, w)

/-- The world after an execution was created; one that is created again is noted again. -/
def noteCreated (id : RecordId) (w : World) : World := { w with created := w.created ++ [id] }

/-- A delivery as the work that makes it holds it: in the slot of its number of issue. -/
def held (d : Delivery) : Filed Delivery :=
  match d.id with
  | .issued n => ⟨some n, d⟩
  | .given _ => Store.copy d

/-- The world after a delivery was saved. -/
def noteSaved (d : Delivery) (w : World) : World :=
  if (Keyed.find? Delivery.id d.id w.saved).isSome then w else { w with saved := w.saved ++ [d] }

/-- The cursor that a rotation moved, seen by all that hold the rule. -/
def noteTurn (id : Uid) (place : Option Int) (w : World) : World :=
  match place with
  | none => w
  | some place => w.editRule (w.store.ruleSlot id) (atPlace place)

/-- The world after one more run of a workflow was counted. -/
def countRun (w : World) (id : Uid) (time : Instant) : World :=
  match w.store.workflowSlot id with
  | some slot => w.editWorkflow (some slot) (·.recordRun time)
  | none => w.withStore (w.store.recordRun id time)

/-- What a site does with a request that reached it. -/
def perform (w : World) : (r : Request) → Except Failure r.Answer × World
  | .listActive t k => w.reading (w.store.listActive t k)
  | .getWorkflow id => w.reading (w.store.getWorkflow id)
  | .recordRun id time => (.ok (), w.countRun id time)
  | .hasCompleted k => w.reading (.ok (w.store.hasCompleted k.workflowId k.entityType k.entityId))
  | .openExecution e =>
    let e := { e with id := .issued (w.issued + 1) }
    { w with issued := w.issued + 1 }.storing e (w.store.createExecution e) (noteCreated e.id)
  | .createExecution e => w.storing e (w.store.createExecution e) (noteCreated e.id)
  | .publishExecution e => (.ok (), w.withStore (w.store.publishExecution e))
  | .finishExecution e => w.storing e (w.store.finishExecution e) id
  | .getExecution id => w.reading (w.store.getExecution id)
  | .listExecutions id => w.reading (w.store.listExecutions id)
  | .listEntityExecutions t id => w.reading (w.store.listEntityExecutions t id)
  | .findByWorkflow id status limit offset =>
    w.reading (w.store.findByWorkflow id status limit offset)
  | .getRule id => w.reading (w.store.getRule id)
  | .listRules t => w.reading (w.store.listRules t)
  | .advanceRotation id size =>
    match w.store.advanceRotation id size with
    | .ok (place, s) => (.ok place, noteTurn id place (w.withStore s))
    | .error e => (.error e, w)
  | .writeCursor rule place => (.ok (), w.editRule rule.slot (atPlace place))
  | .turnCursor rule size =>
    let place := MemoryStore.nextPlace (w.cursorOf rule) size
    (.ok place, w.editRule rule.slot (atPlace place))
  | .openDelivery d =>
    let d := { d with id := .issued (w.saved.length + 1) }
    w.storing d (w.store.saveDelivery (held d)) (noteSaved d)
  | .publishDelivery d =>
    (.ok (), { w with
      store := w.store.publishDelivery (held d)
      saved := Keyed.modify Delivery.id d.id (fun _ => d) w.saved })
  | .saveDelivery d => w.storing d (w.store.saveDelivery (held d)) (noteSaved d)
  | .fileDelivery d => w.storing d (w.store.saveDelivery (Store.copy d)) (noteSaved d)
  | .listDeliveries => w.reading w.store.listDeliveries
  | .listFailed limit => w.reading (w.store.listFailed limit)
  | .createTask t => w.serving (w.services.createTask t)
  | .createActivity a => w.serving (w.services.createActivity a)
  | .logEmail e => w.serving (w.services.logEmail e)
  | .upsertTag name => w.serving (w.services.upsertTag name)
  | .findTag name => w.reading (.ok (w.services.findTag name))
  | .teamMembers team => w.reading (.ok (w.services.teamMembers team))
  | .findAdapter t => w.reading (.ok ((w.registry.adapter? t).map (·.taggable)))
  | .snapshot t id => w.adapting t fun a => .ok (a.record? id)
  | .updateField t id field value => w.patching t (·.updateField id field value)
  | .countOwned t user => w.adapting t (·.countOwned user)
  | .connectTag t id tag => w.patching t fun a => .ok (a.connectTag id tag)
  | .disconnectTag t id tag => w.patching t fun a => .ok (a.disconnectTag id tag)
  | .emit event e => (.ok (), { w with events := w.events ++ [(event, e)] })
  | .enterRunner => (.ok (), w)
  | .beginExchange d headers content =>
    (.ok (), { w with
      permits := w.permits - 1
      inFlight := w.inFlight + 1
      wire := w.wire ++ [(d.url, .request d.method headers content)] })
  | .endExchange url =>
    let (x, script) := nextExchange url w.script
    (.ok x, { w with permits := w.permits + 1, inFlight := w.inFlight - 1, script })
  | .pause url delay => (.ok (), { w with wire := w.wire ++ [(url, .pause delay)] })
  | .giveWay => (.ok (), w)
  | .now => (.ok w.clock, w)
  | .log entry => (.ok (), { w with logs := w.logs ++ [entry] })
  | .claim k =>
    if k ∈ w.claimed then (.ok false, w) else (.ok true, { w with claimed := w.claimed ++ [k] })
  | .release k => (.ok (), { w with claimed := w.claimed.filter (· ≠ k) })
  | .start work => (.ok (), { w with queue := w.queue ++ [work] })

/-- The answer when nobody is there to be asked. -/
def unaddressed : (r : Request) → Except Failure r.Answer
  | .emit .. => .ok ()
  | _ => .error .noSuchOperation

/-- The answer to a request and the world after it. -/
def answer (w : World) (r : Request) : Except Failure r.Answer × World :=
  if !w.isAddressed r then (unaddressed r, w)
  else match w.unreachable? r with
    | some e => (.error e, w)
    | none =>
      match r.site? with
      | none => w.perform r
      | some site =>
        match Fault.meet site w.faults with
        | (some e, faults) => (.error e, { w with faults })
        | (none, faults) => { w with faults }.perform r

end World
end RecordFlow
