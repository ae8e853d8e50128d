/-
# Conditions — predicates over the fields of a record

A condition reads one field, compares it with a value by an operator, and
holds or does not hold.  A comparison that cannot be made does not hold;
conditions in a list are joined by "and", the empty list holding always.
Evaluation stops with a failure only where a number has no floating-point form,
a NaN refuses to be compared, or a value to be compared as a text has none.
-/
import RecordFlow.Value.Pairs
import RecordFlow.Value.Text
import RecordFlow.Text.Case
import RecordFlow.Number.Numeral

namespace RecordFlow

/-- A predicate `(field, operator, value)`. -/
structure Condition where
  field : String
  operator : Open Operator
  value : Value
deriving Repr, Inhabited

namespace Condition

/-! ## Stored form -/

/-- The text stored under a key, empty when the key is missing. -/
def storedText (stored : Fields) (key : String) : Except Failure String :=
  match stored.find? key with
  | some v => v.plainText
  | none => .ok ""

/-- The condition in a stored record. -/
def ofFields (stored : Fields) : Except Failure Condition := do
  let field ← storedText stored "field"
  let operator ← storedText stored "operator"
  return { field, operator := Open.ofText operator, value := stored.get "value" }

/-- The stored record of a condition. -/
def toFields (c : Condition) : Fields :=
  [("field", .text c.field), ("operator", .text c.operator.text), ("value", c.value)]

/-- The stored records of conditions. -/
def listToValue (cs : List Condition) : Value := .list (cs.map fun c => .record c.toFields)

/-- The condition in a stored value; only a record can be one. -/
def ofValue (v : Value) : Except Failure Condition :=
  match v with
  | .record fs => ofFields fs
  | _ => .error .noSuchOperation

/-- The conditions in a stored value, which is gone through; whatever counts as nothing holds
none. -/
def listOfValue (stored : Value) : Except Failure (List Condition) := do
  if stored.isTruthy then (← stored.elements).mapM ofValue else return []

/-! ## Operators -/

/-- The number that a value stands for, NaN if it stands for none.  Truth values, null, blank
texts and containers stand for none. -/
def toNumber : Value → Except Failure Binary64
  | .int n =>
    match Binary64.ofInt? n with
    | some x => .ok x
    | none => .error .integerTooLarge
  | .float x => .ok x
  | .decimal d =>
    match d.toBinary64? with
    | some x => .ok x
    | none => .error .signalingNaN
  | .text s => .ok ((Numeral.toBinary64? (String.ofList (Text.trim s.toList))).getD .nan)
  | _ => .ok .nan

/-- A comparison of the numbers that two values stand for. -/
def compareNumbers (holds : Binary64 → Binary64 → Bool) (a b : Value) : Except Failure Bool := do
  let x ← toNumber a
  let y ← toNumber b
  return holds x y

/-- The text of a value as the text operators see it. -/
def caseless (v : Value) : Except Failure (List Char) :=
  (fun s => (Text.lower s).toList) <$> v.stringify

/-- A comparison of two values as the text operators see them. -/
def compareTexts (holds : List Char → List Char → Bool) (a b : Value) : Except Failure Bool := do
  let s ← caseless a
  let t ← caseless b
  return holds s t

/-- Whether one text stands anywhere in another. -/
def occursIn (needle : List Char) : List Char → Bool
  | [] => needle.isEmpty
  | c :: rest => needle.isPrefixOf (c :: rest) || occursIn needle rest

/-- Whether a value is the same as an item of a list or tuple. -/
def isMember (a b : Value) : Except Failure Bool :=
  match b.items? with
  | some xs => a.sameAsAny xs
  | none => .ok false

/-- Whether an operator holds between a field's value and the value of the condition. -/
def holds (op : Operator) (a b : Value) : Except Failure Bool :=
  match op with
  | .equals => a.same b
  | .notEquals => (!·) <$> a.same b
  | .contains => compareTexts (fun s t => occursIn t s) a b
  | .notContains => compareTexts (fun s t => !occursIn t s) a b
  | .startsWith => compareTexts (fun s t => t.isPrefixOf s) a b
  | .endsWith => compareTexts (fun s t => t.isSuffixOf s) a b
  | .greaterThan => compareNumbers (fun x y => y.lt x) a b
  | .lessThan => compareNumbers (fun x y => x.lt y) a b
  | .greaterThanOrEquals => compareNumbers (fun x y => y.le x) a b
  | .lessThanOrEquals => compareNumbers (fun x y => x.le y) a b
  | .isEmpty => .ok a.isBlank
  | .isNotEmpty => .ok !a.isBlank
  | .isIn => isMember a b
  | .isNotIn => (!·) <$> isMember a b

/-! ## Evaluation -/

/-- Whether a condition holds for a record; a foreign operator never does. -/
def eval (c : Condition) (entity : Fields) : Except Failure Bool :=
  match c.operator with
  | .known op => holds op (entity.get c.field) c.value
  | .foreign _ => .ok false

/-- Whether all conditions hold, tried in order up to the first that does not. -/
def evalAll (entity : Fields) : List Condition → Except Failure Bool
  | [] => .ok true
  | c :: cs =>
    match c.eval entity with
    | .ok true => evalAll entity cs
    | other => other

/-- Whether a condition holds for a value in the place of a record: only a record has fields to
read, and a foreign operator reads none. -/
def evalOn (c : Condition) (entity : Value) : Except Failure Bool :=
  match entity, c.operator with
  | .record fs, _ => c.eval fs
  | _, .known _ => .error .noSuchOperation
  | _, .foreign _ => .ok false

/-- Whether all stored conditions hold, each being read when it is its turn. -/
def evalStored (entity : Value) : List Value → Except Failure Bool
  | [] => .ok true
  | v :: vs =>
    match ofValue v >>= (evalOn · entity) with
    | .ok true => evalStored entity vs
    | other => other

/-- Whether a stored list of conditions holds; whatever counts as nothing holds always. -/
def evalValue (entity stored : Value) : Except Failure Bool := do
  if stored.isTruthy then evalStored entity (← stored.elements) else return true

end Condition
end RecordFlow
