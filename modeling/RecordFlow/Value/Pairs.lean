/-
# Pairs — going through a value, and records given as pairs

Going through a list or a tuple gives its items, through a text its
characters, through a record the names of its fields.  A record may be given
by going through pairs of a key and a value; of pairs with equal keys the
first gives the key and the last the value.
-/
import RecordFlow.Value.Equal

namespace RecordFlow.Value

/-- What going through a value gives; null, numbers and truth values cannot be gone through. -/
def elements : Value → Except Failure (List Value)
  | list xs => .ok xs
  | tuple xs => .ok xs
  | text s => .ok (s.toList.map fun c => .text (String.ofList [c]))
  | record fs => .ok (fs.map fun f => .text f.1)
  | _ => .error .unsuited

mutual

/-- Whether a value can be a key: what can grow cannot, nor can the NaN that takes part in no
operation. -/
def canBeKey : Value → Bool
  | list _ => false
  | record _ => false
  | tuple xs => canBeKeys xs
  | decimal d => !d.isSignaling
  | _ => true

/-- Whether all values can be keys. -/
def canBeKeys : List Value → Bool
  | [] => true
  | x :: xs => canBeKey x && canBeKeys xs

end

/-- Pairs with one more: in the place of the one with an equal key, or else at the end. -/
def putPair (key value : Value) : List (Value × Value) → List (Value × Value)
  | [] => [(key, value)]
  | (k, v) :: rest =>
    match equal k key with
    | .ok true => (k, value) :: rest
    | _ => (k, v) :: putPair key value rest

/-- The pair that an item at an index gives when it is gone through. -/
def pairAt (index : Nat) (item : Value) : Except Failure (Value × Value) :=
  match item.elements with
  | .error f => .error f
  | .ok [k, v] => if k.canBeKey then .ok (k, v) else .error .unsuited
  | .ok xs => .error (.notAPair index xs.length)

/-- The pairs that items give from an index on, joined to those before. -/
def collectPairs (index : Nat) (before : List (Value × Value)) :
    List Value → Except Failure (List (Value × Value))
  | [] => .ok before
  | x :: xs =>
    match pairAt index x with
    | .error f => .error f
    | .ok (k, v) => collectPairs (index + 1) (putPair k v before) xs

/-- The pairs of the record that a value gives: its fields, or the pairs that it holds. -/
def asPairs : Value → Except Failure (List (Value × Value))
  | record fs => .ok (fs.map fun f => (.text f.1, f.2))
  | v =>
    match v.elements with
    | .error f => .error f
    | .ok xs => collectPairs 0 [] xs

end RecordFlow.Value
