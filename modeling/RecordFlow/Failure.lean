/-
# Failure — why an operation stops

Every way in which an operation of the library stops is a cause of its own;
its wording is in one function.  A collaborator outside the library reports
its own failures with a name and a message.
-/
import RecordFlow.Kinds
import RecordFlow.Uid
import RecordFlow.Instant

namespace RecordFlow

/-- What is wrong with the stored configuration of an action. -/
inductive ConfigProblem where
  | notAnObject
  | missing (key : String)
  /-- The value under a key, shown as it stands, is no number. -/
  | notANumber (key : String) (shown : String)
  | headersNotAnObject
  | conditionsNotAList
  /-- The reference to an assignment rule, shown as it stands, is no identifier. -/
  | badRuleReference (shown : String)
deriving DecidableEq, Repr

namespace ConfigProblem

/-- What is said about a configuration problem. -/
def message : ConfigProblem → String
  | notAnObject => "configuration must be an object"
  | missing key => "'" ++ key ++ "' is required"
  | notANumber key shown => "'" ++ key ++ "' must be a number, got " ++ shown
  | headersNotAnObject => "'headers' must be an object"
  | conditionsNotAList => "'conditions' must be a list"
  | badRuleReference shown => "invalid assignmentRuleId " ++ shown

end ConfigProblem

/-- The two entry points that an assembled engine hands out. -/
inductive EntryPoint where
  | dispatcher | executor
deriving DecidableEq, Repr

/-- The name of an entry point. -/
def EntryPoint.text : EntryPoint → String
  | dispatcher => "dispatcher"
  | executor => "executor"

/-- Why an operation stops. -/
inductive Failure where
  /-- A collaborator outside the library failed, under its own name and with its own words. -/
  | reported (name : String) (said : String)
  | integerTooLarge
  /-- A whole number has more digits than are written out. -/
  | tooManyDigits
  | signalingNaN
  | signalingComparison
  /-- A stored word, shown as it stands, is no member of a vocabulary. -/
  | notAMember (shown : String) (vocabulary : String)
  /-- A word in a column names no member of the column's vocabulary. -/
  | unreadableWord (word vocabulary : String) (names : List String)
  | missingKey (key : String)
  | badUid (problem : UidProblem)
  | badConfig (action : ActionKind) (problem : ConfigProblem)
  | workflowNotFound (id : Uid)
  | adapterNotFound (entityType : String)
  | recordNotFound (entityType entityId : String)
  /-- A collaborator does not have the operation. -/
  | noSuchOperation
  | badSpan (problem : Instant.SpanProblem)
  | dateOutOfRange
  /-- A rotation over a pool of nobody. -/
  | emptyRotation
  /-- A row has the key of a row that is there. -/
  | duplicateKey
  /-- A row would break a rule of its table. -/
  | constraintBroken
  | rowNotFound
  /-- A value has no form that a column can hold. -/
  | unstorable
  /-- A whole number is too large for any column. -/
  | wholeBeyondColumn
  /-- A value is of a sort that no statement can carry. -/
  | unbindable
  /-- A table is there already, or is not there. -/
  | tableState
  | noSuchTable
  | unknownSetting
  /-- A value is of a sort that an operation does not take. -/
  | unsuited
  /-- An item in the place of a pair, at an index, has another length. -/
  | notAPair (index length : Nat)
  | negativePermits
  /-- A request by an HTTP client that has been closed. -/
  | clientClosed
  | notAssembled (entry : EntryPoint)
deriving DecidableEq, Repr

namespace Failure

/-- The words of a length-of-time problem. -/
def spanMessage : Instant.SpanProblem → String
  | .notANumber => "cannot convert float NaN to integer"
  | .infinite => "cannot convert float infinity to integer"
  | .tooManyDays days => "days=" ++ toString days ++ "; must have magnitude <= 999999999"
  | .beyondCounting => "Python int too large to convert to C int"

/-- How many characters of a quoted text are shown. -/
def shownLength : Nat := 200

/-- The words of an identifier problem. -/
def uidMessage : UidProblem → String
  | .length => "badly formed hexadecimal UUID string"
  | .digits s =>
    "invalid literal for int() with base 16: "
      ++ String.ofList ((Text.quoted s).toList.take shownLength)

/-- A name as it is listed: a long one is cut. -/
def listedName (name : String) : String :=
  if 11 < name.length then String.ofList (name.toList.take 11) ++ ".." else name

/-- Names in a list of four at most: of more, the first three and the last are told. -/
def listedNames (names : List String) : String :=
  if names.length ≤ 4 then ", ".intercalate (names.map listedName)
  else ", ".intercalate ((names.take 3).map listedName) ++ ", ..., "
    ++ ", ".intercalate ((names.drop (names.length - 1)).map listedName)

/-- What is said about a failure. -/
def message : Failure → String
  | reported _ said => said
  | integerTooLarge => "int too large to convert to float"
  | tooManyDigits =>
    "Exceeds the limit (4300 digits) for integer string conversion; "
      ++ "use sys.set_int_max_str_digits() to increase the limit"
  | signalingNaN => "cannot convert signaling NaN to float"
  | signalingComparison => "[<class 'decimal.InvalidOperation'>]"
  | notAMember shown vocabulary => shown ++ " is not a valid " ++ vocabulary
  | unreadableWord word vocabulary names =>
    "'" ++ word ++ "' is not among the defined enum values. Enum name: " ++ vocabulary
      ++ ". Possible values: " ++ listedNames names
  | missingKey key => Text.quoted key
  | badUid problem => uidMessage problem
  | badConfig action problem =>
    "Invalid " ++ Vocabulary.text action ++ " configuration: " ++ problem.message
  | workflowNotFound id => "Workflow '" ++ id.toText ++ "' not found"
  | adapterNotFound entityType => "No entity adapter registered for '" ++ entityType ++ "'"
  | recordNotFound entityType entityId => entityType ++ " record '" ++ entityId ++ "' not found"
  | noSuchOperation => "the collaborator has no such operation"
  | badSpan problem => spanMessage problem
  | dateOutOfRange => "date value out of range"
  | emptyRotation => "integer modulo by zero"
  | duplicateKey => "a row with this key is there already"
  | constraintBroken => "a constraint of the table is broken"
  | rowNotFound => "no row was found"
  | unstorable => "a value cannot be stored"
  | wholeBeyondColumn => "Python int too large to convert to SQLite INTEGER"
  | unbindable => "a value of this sort cannot be part of a statement"
  | tableState => "the table exists already or does not exist"
  | noSuchTable => "no such table"
  | unknownSetting => "unknown setting"
  | unsuited => "a value is of a sort that the operation does not take"
  | notAPair index length =>
    "dictionary update sequence element #" ++ toString index ++ " has length " ++ toString length
      ++ "; 2 is required"
  | negativePermits => "Semaphore initial value must be >= 0"
  | clientClosed => "Cannot send a request, as the client has been closed."
  | notAssembled entry =>
    "AutomationPlugin has not been initialized. Access " ++ entry.text ++ " after app startup."

/-- The name that stands in for an empty message. -/
def name : Failure → String
  | reported name _ => name
  | _ => ""

/-- What is recorded of a failure: its message, or its name when it says nothing. -/
def report (f : Failure) : String := if f.message = "" then f.name else f.message

end Failure
end RecordFlow
