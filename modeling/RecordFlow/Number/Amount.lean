/-
# Amounts — numbers given as whole or as floating point

Where a setting, a position or a count may be given as either kind of number,
the kind is kept and the order is that of the exact values.
-/
import RecordFlow.Value.Basic
import RecordFlow.Order.Runs

namespace RecordFlow

/-- A number given as a whole number or in floating point. -/
inductive Amount where
  | whole (n : Int)
  | real (x : Binary64)
deriving DecidableEq, Repr

namespace Amount

instance : Inhabited Amount := ⟨whole 0⟩

/-- Whether an amount has a place in the order; a NaN has none. -/
def isPlaced : Amount → Bool
  | real .nan => false
  | _ => true

/-- An amount in floating-point units, which a whole number is a multiple of, without bound. -/
def inUnits : Amount → Binary64
  | whole n => .finite (n < 0) (n.natAbs * Binary64.one)
  | real x => x

/-- The strict order of amounts by exact value; a NaN stands in no relation. -/
def lt (a b : Amount) : Bool := a.inUnits.lt b.inUnits

/-- The amount that is greater by one. -/
def succ : Amount → Amount
  | whole n => whole (n + 1)
  | real x => real x.succ

/-- The value of an amount. -/
def toValue : Amount → Value
  | whole n => .int n
  | real x => .float x

/-- Items by an amount, keeping their order among equal ones.  Where an amount is a NaN, which
stands in no relation, the runs of the list decide. -/
def inOrder {α : Type} (amount : α → Amount) (xs : List α) : List α :=
  if xs.all fun x => (amount x).isPlaced then
    xs.mergeSort fun a b => !(amount b).lt (amount a)
  else Runs.sort (fun a b => (amount a).lt (amount b)) xs

end Amount
end RecordFlow
