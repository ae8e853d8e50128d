/-
# Settings — what can be tuned in the engine

Settings have defaults; numbers are kept as they are given.
-/
import RecordFlow.Number.Amount
import RecordFlow.Failure

namespace RecordFlow

/-- The settings of an engine. -/
structure Settings where
  /-- The actor recorded when nobody else is known. -/
  systemUserId : String := "system"
  /-- The sender recorded on outbound e-mails. -/
  emailFrom : String := "workflow@system.local"
  /-- The field that an owner assignment writes. -/
  ownerField : String := "ownerId"
  /-- Seconds allowed for one request. -/
  webhookTimeout : Amount := .real (.finite false (10 * Binary64.one))
  /-- How many requests may follow the first. -/
  webhookMaxRetries : Int := 2
  /-- Seconds before the second request; every further pause is twice as long. -/
  webhookRetryBackoff : Amount := .real (.finite false (Binary64.one / 2))
  /-- How many requests may be in flight. -/
  webhookMaxConcurrency : Int := 20
deriving Repr, Inhabited

namespace Settings

/-- The texts and numbers of the settings, in order. -/
def toFields (s : Settings) : Fields := [
  ("system_user_id", .text s.systemUserId),
  ("email_from", .text s.emailFrom),
  ("owner_field", .text s.ownerField),
  ("webhook_timeout", s.webhookTimeout.toValue),
  ("webhook_max_retries", .int s.webhookMaxRetries),
  ("webhook_retry_backoff", s.webhookRetryBackoff.toValue),
  ("webhook_max_concurrency", .int s.webhookMaxConcurrency)]

/-- The settings as a record with some of them given otherwise; every given name has to be
the name of a setting. -/
def described (given : Fields) : Except Failure Fields :=
  let defaults := toFields {}
  if given.all fun g => (Fields.find? defaults g.1).isSome then
    .ok (given.foldl (fun fields g => Fields.set fields g.1 g.2) defaults)
  else .error .unknownSetting

/-- The pause after the given number of attempts. -/
def pauseAfter (s : Settings) (attempt : Nat) : Except Failure Binary64 :=
  match s.webhookRetryBackoff with
  | .whole n =>
    match Binary64.ofInt? (n * Int.pow 2 (attempt - 1)) with
    | some x => .ok x
    | none => .error .integerTooLarge
  | .real x => if attempt ≤ 1024 then .ok (x.timesTwoPow (attempt - 1)) else .error .integerTooLarge

end Settings
end RecordFlow
