/-
# Deliveries — the log entry of one outbound webhook

A delivery is logged as pending before its first request, carries the trace of
the last attempt while it is retried, and ends delivered or failed.
-/
import RecordFlow.RecordId
import RecordFlow.Kinds
import RecordFlow.Instant
import RecordFlow.Value.Basic

namespace RecordFlow

/-- The log entry of one outbound webhook. -/
structure Delivery where
  id : RecordId := .issued 0
  url : String
  method : String
  actionId : Uid
  workflowId : Option Uid := none
  executionId : Option RecordId := none
  status : Open DeliveryStatus := .known .pending
  /-- How many requests have been made. -/
  attempts : Int := 0
  responseStatus : Option Int := none
  error : Option String := none
  createdAt : Instant
  completedAt : Option Instant := none
deriving DecidableEq, Repr, Inhabited

/-- How one request ended. -/
inductive Exchange where
  /-- A response came with this status. -/
  | answered (status : Int)
  /-- The transport failed; the request may be made again. -/
  | broken (name said : String)
  /-- The request is malformed; making it again would not help. -/
  | refused (name said : String)
  /-- The client itself failed. -/
  | crashed (name said : String)
deriving DecidableEq, Repr, Inhabited

namespace Exchange

/-- Whether a status tells of a failure of the server. -/
def isServerError (status : Int) : Bool := 500 ≤ status && status ≤ 599

/-- Whether a status tells of a failure of the client. -/
def isClientError (status : Int) : Bool := 400 ≤ status && status ≤ 499

/-- Whether another request could end differently. -/
def isRetryable : Exchange → Bool
  | answered status => isServerError status
  | broken _ _ => true
  | _ => false

end Exchange

namespace Delivery

/-- The entry at the beginning of an attempt. -/
def attempting (d : Delivery) (attempt : Int) : Delivery := { d with attempts := attempt }

/-- The entry after a request that ended without a delivery. -/
def missed (d : Delivery) (responseStatus : Option Int) (error : String) : Delivery :=
  { d with responseStatus, error := some error }

/-- The entry after a request that delivered. -/
def delivered (d : Delivery) (status : Int) (now : Instant) : Delivery :=
  { d with
    responseStatus := some status
    error := none
    status := .known .delivered
    completedAt := some now }

/-- The entry given up. -/
def givenUp (d : Delivery) (now : Instant) : Delivery :=
  { d with status := .known .failed, completedAt := some now }

/-- A delivery as a record. -/
def toFields (d : Delivery) : Fields := [
  ("id", .text d.id.deliveryText),
  ("url", .text d.url),
  ("method", .text d.method),
  ("action_id", .text d.actionId.toText),
  ("workflow_id", Value.ofText? (d.workflowId.map Uid.toText)),
  ("execution_id", Value.ofText? (d.executionId.map RecordId.executionText)),
  ("status", .text d.status.text),
  ("attempts", .int d.attempts),
  ("response_status", Value.ofOption .int d.responseStatus),
  ("error", Value.ofText? d.error),
  ("created_at", .text d.createdAt.toText),
  ("completed_at", Value.ofText? (d.completedAt.map Instant.toText))]

end Delivery
end RecordFlow
