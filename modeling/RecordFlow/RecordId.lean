/-
# Record identifiers — given or issued

An execution or a delivery is known by an identifier that came with it or by
one that was issued when it was first stored.  Issued identifiers count from
one in the order of issue, so no two of them are the same.
-/
import RecordFlow.Uid

namespace RecordFlow

/-- The identifier of a stored record. -/
inductive RecordId where
  | given (id : Uid)
  | issued (number : Nat)
deriving DecidableEq, Repr, Inhabited

namespace RecordId

/-- The text of an identifier of a record of the named sort. -/
def text (sort : String) : RecordId → String
  | given id => id.toText
  | issued n => sort ++ "#" ++ toString n

/-- The text of an execution's identifier. -/
def executionText (id : RecordId) : String := id.text "execution"

/-- The text of a delivery's identifier. -/
def deliveryText (id : RecordId) : String := id.text "delivery"

end RecordId
end RecordFlow
