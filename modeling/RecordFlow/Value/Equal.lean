/-
# Equality of values — by exact value, whatever the kind of number

Numbers of all kinds are equal when their exact values are; a truth value
inside a list or record counts as one or zero; lists, tuples and records are
compared part by part, records without regard to the order of their fields.  A
NaN is equal to nothing.  The operators of conditions compare with a guard of
their own: there a truth value is only ever equal to a truth value.
-/
import RecordFlow.Number.Magnitude
import RecordFlow.Value.Basic
import RecordFlow.Failure

namespace RecordFlow

namespace Value

/-- Whether a value counts as a number, a truth value included. -/
def isNumber : Value → Bool
  | bool _ | int _ | float _ | decimal _ => true
  | _ => false

/-- The place of a number on the extended line; a NaN has none. -/
def magnitude? : Value → Option Magnitude
  | bool b => some (.ofInt (if b then 1 else 0))
  | int n => some (.ofInt n)
  | float x => Magnitude.ofBinary64? x
  | decimal d => Magnitude.ofDecimal? d
  | _ => none

/-- Whether a value is the NaN that takes part in no operation. -/
def isSignaling : Value → Bool
  | decimal d => d.isSignaling
  | _ => false

/-- Equality of two numbers by exact value. -/
def equalNumbers (a b : Value) : Except Failure Bool :=
  if a.isSignaling || b.isSignaling then .error .signalingComparison
  else .ok <| match a.magnitude?, b.magnitude? with
    | some x, some y => x = y
    | _, _ => false

mutual

/-- Equality of two values. -/
def equal : Value → Value → Except Failure Bool
  | null, null => .ok true
  | text s, text t => .ok (s = t)
  | list xs, list ys => if xs.length = ys.length then equalItems xs ys else .ok false
  | tuple xs, tuple ys => equalItems xs ys
  | record fs, record gs => if fs.length = gs.length then equalFields fs gs else .ok false
  | a, b => if a.isNumber && b.isNumber then equalNumbers a b else .ok false

/-- Equality of two sequences, item by item up to the first difference. -/
def equalItems : List Value → List Value → Except Failure Bool
  | [], [] => .ok true
  | x :: xs, y :: ys =>
    match equal x y with
    | .ok true => equalItems xs ys
    | other => other
  | _, _ => .ok false

/-- Whether every field of the first record has an equal field in the second. -/
def equalFields : List (String × Value) → List (String × Value) → Except Failure Bool
  | [], _ => .ok true
  | (name, v) :: rest, gs =>
    match gs.lookup name with
    | none => .ok false
    | some w =>
      match equal v w with
      | .ok true => equalFields rest gs
      | other => other

end

/-- Equality as the operators of conditions know it: at the top a truth value is never equal
to anything but a truth value. -/
def same (a b : Value) : Except Failure Bool :=
  if a.isBool = b.isBool then equal a b else .ok false

/-- Whether a value is the same as one of the items, tried in order. -/
def sameAsAny (a : Value) : List Value → Except Failure Bool
  | [] => .ok false
  | x :: xs =>
    match same a x with
    | .ok false => sameAsAny a xs
    | other => other

end Value
end RecordFlow
