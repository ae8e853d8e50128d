/-
# Owner assignment — from a rule to a user

A rule is applied by its method: a fixed user, the next of a pool in turn, the
user of a territory, or the user of a pool who owns the fewest records.  A
round-robin rule takes its place from the store's cursor; a rule that the
store does not hold turns its own.
-/
import RecordFlow.Engine.Program
import RecordFlow.Action.Config

namespace RecordFlow.Assignment

open Prog (ask ofExcept)

/-- A text that is there and not empty. -/
def given? (s : Option String) : Option String := s.filter (· ≠ "")

/-- The users a rule chooses among: those it names, or else the members of its team. -/
def candidatePool (rule : AssignmentRule) : Prog (List String) :=
  if !rule.userIds.isEmpty then pure rule.userIds
  else match given? rule.teamId with
    | some team => ask (.teamMembers team)
    | none => pure []

/-- The user at a place of a pool; a negative place counts from the end. -/
def userAt (pool : List String) (place : Int) : Option String :=
  if place < 0 then pool[(pool.length + place).toNat]? else pool[place.toNat]?

/-- The place that is next in turn for a rule over a pool of the given size: from the store's
cursor, or from the rule's own when the store does not hold the rule. -/
def nextInTurn (rule : Filed AssignmentRule) (size : Int) : Prog Int := do
  match ← ask (.advanceRotation rule.record.id size) with
  | some place => do
    ask (.writeCursor rule place)
    return place
  | none => ask (.turnCursor rule size)

/-- The user of the pool who is next in turn. -/
def roundRobin (rule : Filed AssignmentRule) : Prog (Option String) := do
  let pool ← candidatePool rule.record
  if pool.isEmpty then return none
  let place ← nextInTurn rule pool.length
  return userAt pool place

/-- How many records of a kind each user owns. -/
def loads (entityType : String) : List String → Prog (List (String × Nat))
  | [] => pure []
  | user :: users => do
    let count ← ask (.countOwned entityType (.text user))
    let others ← loads entityType users
    return (user, count) :: others

/-- The first user with the least load. -/
def leastLoaded : List (String × Nat) → Option (String × Nat)
  | [] => none
  | l :: ls =>
    match leastLoaded ls with
    | some best => some (if l.2 ≤ best.2 then l else best)
    | none => some l

/-- The user of the pool who owns the fewest records of the kind. -/
def loadBalanced (rule : AssignmentRule) (entityType : String) : Prog (Option String) := do
  let pool ← candidatePool rule
  if pool.isEmpty then return none
  return (leastLoaded (← loads entityType pool)).map (·.1)

/-- What is logged of a rule with a foreign method. -/
def unknownMethod (rule : AssignmentRule) : LogEntry where
  level := .debug
  message := "Unknown assignment method"
  fields := [("rule_id", .text rule.id.toText), ("method", .text rule.method.text)]

/-- The user that a rule chooses for the record of a context. -/
def resolve (rule : Filed AssignmentRule) (context : Context) : Prog (Option String) :=
  match rule.record.method with
  | .known .specificUser => pure rule.record.assignToUserId
  | .known .roundRobin => roundRobin rule
  | .known .territory => ofExcept (rule.record.territoryUser context.entity)
  | .known .loadBalanced => loadBalanced rule.record context.entityType
  | .foreign _ => do
    ask (.log (unknownMethod rule.record))
    return none

/-- The rule that a reference names. -/
def ruleReference (reference : String) : Except Failure Uid :=
  match Uid.parse reference with
  | .ok id => .ok id
  | .error _ => .error (.badConfig .assignOwner (.badRuleReference (Text.quoted reference)))

/-- The owner that a configuration asks for: the user it names, or else the choice of the
rule it names, if that rule is there and active. -/
def ownerFor (config : OwnerConfig) (context : Context) : Prog (Option String) :=
  match given? config.userId with
  | some user => pure (some user)
  | none =>
    match given? config.ruleId with
    | none => pure none
    | some reference => do
      let id ← ofExcept (ruleReference reference)
      match ← ask (.getRule id) with
      | none => return none
      | some rule => if rule.record.isActive then resolve rule context else return none

end RecordFlow.Assignment
