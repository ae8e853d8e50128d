/-
# Delivery — one webhook from its first request to its end

A request is made under a permit.  A transport error or a failure of the
server is tried again, with a pause that doubles, while attempts are left; a
failure of the client or a malformed request is final.  A failure of the
client program itself is no outcome: the delivery stops where it is.
-/
import RecordFlow.Engine.Program

namespace RecordFlow.Deliver

open Prog (ask attempt ofExcept)

/-- What tells a delivery in the log. -/
def logFields (d : Delivery) : Fields := [
  ("delivery_id", .text d.id.deliveryText),
  ("action_id", .text d.actionId.toText),
  ("workflow_id", Value.ofText? (d.workflowId.map Uid.toText)),
  ("execution_id", Value.ofText? (d.executionId.map RecordId.executionText))]

/-- What is logged of a delivery that arrived. -/
def arrived (d : Delivery) (status : Int) : LogEntry where
  level := .debug
  message := "Webhook delivered"
  fields := logFields d ++ [("status_code", .int status)]

/-- What is logged of an attempt that will be followed by another. -/
def retrying (d : Delivery) : LogEntry where
  level := .warning
  message := "Webhook attempt failed, retrying"
  fields := logFields d ++ [("attempt", .int d.attempts), ("error", Value.ofText? d.error)]

/-- What is logged of a delivery that is given up. -/
def givenUp (d : Delivery) : LogEntry where
  level := .error
  message := "Webhook delivery failed"
  fields := logFields d ++ [("attempts", .int d.attempts), ("error", Value.ofText? d.error),
    ("url", .text d.url)]

/-- What is logged of a delivery whose client failed. -/
def crashed (f : Failure) : LogEntry where
  level := .error
  message := "Webhook delivery task crashed"
  fields := [("error", .text f.message)]

/-- Gives a delivery up. -/
def giveUp (d : Delivery) : Prog Unit := do
  let now ← ask .now
  let d := d.givenUp now
  ask (.publishDelivery d)
  let _ ← ask (.saveDelivery d)
  ask (.log (givenUp d))

/-- Records that a delivery arrived. -/
def arrive (d : Delivery) (status : Int) : Prog Unit := do
  let now ← ask .now
  let d := d.delivered status now
  ask (.publishDelivery d)
  let _ ← ask (.saveDelivery d)
  ask (.log (arrived d status))

/-- What an exchange without a delivery leaves on the entry; a client that failed leaves
nothing but its failure. -/
def trace (d : Delivery) : Exchange → Except Failure Delivery
  | .answered status => .ok (d.missed (some status) ("HTTP " ++ toString status))
  | .broken name said => .ok (d.missed none (name ++ ": " ++ said))
  | .refused name said => .ok (d.missed none (name ++ ": " ++ said))
  | .crashed name said => .error (.reported name said)

/-- Whether an exchange delivered, and with what status. -/
def delivering? : Exchange → Option Int
  | .answered status =>
    if Exchange.isServerError status || Exchange.isClientError status then none else some status
  | _ => none

/-- Makes the request of one attempt. -/
def exchange (job : QueuedDelivery) (d : Delivery) : Prog Exchange := do
  ask (.beginExchange d job.headers job.content)
  ask (.endExchange d.url)

/-- Logs and saves a missed attempt and waits for the next. -/
def waitForNext (settings : Settings) (d : Delivery) (attempt : Nat) : Prog Unit := do
  ask (.log (retrying d))
  ask (.publishDelivery d)
  let _ ← ask (.saveDelivery d)
  let delay ← ofExcept (settings.pauseAfter attempt)
  ask (.pause d.url delay)

/-- Makes the attempts that are left, the next one being number `attempt`. -/
def attempts (settings : Settings) (job : QueuedDelivery) (d : Delivery) (attempt : Nat) :
    (left : Nat) → Prog Unit
  | 0 => giveUp d
  | left + 1 => do
    let d := d.attempting attempt
    ask (.publishDelivery d)
    let outcome ← exchange job d
    match delivering? outcome with
    | some status => arrive d status
    | none => do
      let d ← ofExcept (trace d outcome)
      if outcome.isRetryable && left != 0 then
        waitForNext settings d attempt
        attempts settings job d (attempt + 1) left
      else giveUp d

/-- Makes a delivery. -/
def deliver (settings : Settings) (job : QueuedDelivery) : Prog Unit :=
  attempts settings job job.delivery 1 (settings.webhookMaxRetries + 1).toNat

/-- A delivery in the background: its crash is logged after the others have gone on. -/
def background (settings : Settings) (job : QueuedDelivery) : Prog Unit := do
  match ← attempt (deliver settings job) with
  | .ok _ => return ()
  | .error f => do
    ask .giveWay
    ask (.log (crashed f))

end RecordFlow.Deliver
