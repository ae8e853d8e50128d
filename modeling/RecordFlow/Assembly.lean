/-
# Assembly — an engine put together and made available

An application asks for the two entry points of an engine under keys of its
choice.  Putting an engine together sets the number of requests that may be in
flight; shutting it down waits for all work and closes the HTTP client if the
engine made it.
-/
import RecordFlow.Engine.Schedule

namespace RecordFlow

/-- The keys under which the entry points are made available. -/
structure EntryKeys where
  dispatcher : String := "workflow_dispatcher"
  executor : String := "workflow_executor"
deriving DecidableEq, Repr, Inhabited

namespace EntryKeys

/-- What is available under which key; with equal keys the executor takes the place. -/
def provided (keys : EntryKeys) : List (String × EntryPoint) :=
  Keyed.put Prod.fst (keys.executor, .executor) [(keys.dispatcher, .dispatcher)]

end EntryKeys

/-- An entry point of an engine, which has to be put together first. -/
def entryPoint (assembled : Bool) (entry : EntryPoint) : Except Failure EntryPoint :=
  if assembled then .ok entry else .error (.notAssembled entry)

/-- An engine: its settings, the world it works in, and whether it made its HTTP client. -/
structure Engine where
  settings : Settings := {}
  ownsClient : Bool := false
  world : World := {}
deriving Repr, Inhabited

namespace Engine

/-- An engine put together in a world. -/
def assemble (settings : Settings) (ownsClient : Bool) (world : World) : Except Failure Engine :=
  if settings.webhookMaxConcurrency < 0 then .error .negativePermits
  else
    let permits := settings.webhookMaxConcurrency.toNat
    .ok { settings, ownsClient, world := { world with permits } }

/-- The engine with another world. -/
def withWorld (e : Engine) (world : World) : Engine := { e with world }

/-- Runs a program in the engine's world. -/
def perform {α : Type} (e : Engine) (p : Prog α) : Except Failure α × Engine :=
  let (x, world) := p.run e.world
  (x, e.withWorld world)

/-- Waits for all work in the background. -/
def drain (e : Engine) : Engine := e.withWorld (e.world.drain e.settings)

/-- Waits for all work, then closes the client if the engine made it. -/
def shutDown (e : Engine) : Engine :=
  let e := e.drain
  if e.ownsClient then e.withWorld { e.world with clientClosed := true } else e

/-! ## Definitions and rules at hand -/

/-- A record filed under a fresh slot. -/
def file {α : Type} (e : Engine) (record : α) : Filed α × Engine :=
  (⟨some e.world.nextSlot, record⟩,
    e.withWorld { e.world with nextSlot := e.world.nextSlot + 1 })

/-- Takes a definition to hand under a handle, and stores it if asked to.  It is at hand also
where the store refuses it. -/
def addWorkflow (e : Engine) (handle : String) (w : Workflow) (stored : Bool) :
    Except Failure Unit × Engine :=
  let (filed, e) := e.file w
  let definitions := Keyed.put Prod.fst (handle, filed) e.world.definitions
  let (added, store) := if stored then e.world.store.addWorkflow filed else (.ok (), e.world.store)
  (added, e.withWorld { e.world with store, definitions })

/-- Takes a rule to hand under a handle, and stores it if asked to. -/
def addRule (e : Engine) (handle : String) (r : AssignmentRule) (stored : Bool) :
    Except Failure Unit × Engine :=
  let (filed, e) := e.file r
  let rules := Keyed.put Prod.fst (handle, filed) e.world.rules
  let (added, store) := if stored then e.world.store.addRule filed else (.ok (), e.world.store)
  (added, e.withWorld { e.world with store, rules })

/-- The definition at hand under a handle. -/
def definition (e : Engine) (handle : String) : Except Failure (Filed Workflow) :=
  match e.world.definitions.lookup handle with
  | some w => .ok w
  | none => .error (.missingKey handle)

/-- The rule at hand under a handle. -/
def rule (e : Engine) (handle : String) : Except Failure (Filed AssignmentRule) :=
  match e.world.rules.lookup handle with
  | some r => .ok r
  | none => .error (.missingKey handle)

end Engine
end RecordFlow
