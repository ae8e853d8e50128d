/-
# Action outcomes — how one action of a run ended

An outcome names the action, its kind and how it ended, with what it did or
why it failed.  The stored record of an outcome leaves out what is null.
-/
import RecordFlow.Value.Text
import RecordFlow.Failure

namespace RecordFlow

/-- How one action ended. -/
structure ActionOutcome where
  actionId : Uid
  kind : Open ActionKind
  status : OutcomeStatus
  /-- What the action did, null when there is nothing to say. -/
  result : Value := .null
  /-- Why the action failed, null when it did not. -/
  error : Value := .null
deriving Repr, Inhabited

namespace ActionOutcome

/-- A field of a stored record, left out when null. -/
def optionalField (key : String) : Value → Fields
  | .null => []
  | v => [(key, v)]

/-- The stored record of an outcome. -/
def toFields (o : ActionOutcome) : Fields :=
  [("actionId", .text o.actionId.toText), ("actionType", .text o.kind.text),
    ("status", .text (Vocabulary.text o.status))]
    ++ optionalField "result" o.result ++ optionalField "error" o.error

/-- A field that a stored record has to have. -/
def requiredField (stored : Fields) (key : String) : Except Failure Value :=
  match stored.find? key with
  | some v => .ok v
  | none => .error (.missingKey key)

/-- The status that a stored value names. -/
def readStatus (v : Value) : Except Failure OutcomeStatus :=
  let refuse := do
    let shown ← v.shown
    throw (Failure.notAMember shown (Vocabulary.title OutcomeStatus))
  match v with
  | .text s =>
    match Vocabulary.find? s with
    | some status => .ok status
    | none => refuse
  | _ => refuse

/-- The identifier that a stored value writes. -/
def readUid (v : Value) : Except Failure Uid := do
  match Uid.parse (← v.plainText) with
  | .ok id => return id
  | .error problem => throw (.badUid problem)

/-- The outcome in a stored record. -/
def ofFields (stored : Fields) : Except Failure ActionOutcome := do
  let actionId ← readUid (← requiredField stored "actionId")
  let kind ← (← requiredField stored "actionType").plainText
  let status ← readStatus (← requiredField stored "status")
  return {
    actionId
    kind := Open.ofText kind
    status
    result := stored.get "result"
    error := stored.get "error" }

/-- The outcome in a stored value; only a record can be one. -/
def ofValue : Value → Except Failure ActionOutcome
  | .record fs => ofFields fs
  | _ => .error .unsuited

/-- The outcome of a failed action with what is reported of the failure. -/
def failed (actionId : Uid) (kind : ActionKind) (report : String) : ActionOutcome :=
  { actionId, kind := .known kind, status := .failed, error := .text report }

/-- Why the action failed, as a text. -/
def errorText? (o : ActionOutcome) : Option String :=
  match o.error with
  | .text s => some s
  | _ => none

end ActionOutcome
end RecordFlow
