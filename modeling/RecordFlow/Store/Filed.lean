/-
# Filed records — records that several holders share

A definition or a rule may be known in several places at once: to the store,
to whoever registered it, to a run that waits for its start.  Holders of one
record carry the same slot, and an edit of the slot reaches all of them; a
record without a slot is a copy of its own.
-/

namespace RecordFlow

/-- A record with the slot by which its holders know it. -/
structure Filed (α : Type) where
  slot : Option Nat
  record : α
deriving Repr, Inhabited

namespace Filed

/-- The record after an edit of a slot, which changes it if it is in that slot. -/
def edit {α : Type} (slot : Nat) (f : α → α) (r : Filed α) : Filed α :=
  if r.slot = some slot then { r with record := f r.record } else r

/-- A list of records after an edit of a slot. -/
def editAll {α : Type} (slot : Option Nat) (f : α → α) (rs : List (Filed α)) : List (Filed α) :=
  match slot with
  | some s => rs.map (edit s f)
  | none => rs

end Filed
end RecordFlow
