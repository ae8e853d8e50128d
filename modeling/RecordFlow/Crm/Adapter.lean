/-
# Entity adapters — the records of one kind of entity

An adapter reads and patches the records of its kind; some kinds carry tags
too.  The registry holds one adapter per kind, in the order of first
registration.
-/
import RecordFlow.Value.Equal
import RecordFlow.Store.Keyed

namespace RecordFlow

/-- The records of one kind of entity. -/
structure Adapter where
  entityType : String
  /-- Whether the records of this kind carry tags. -/
  taggable : Bool := false
  /-- The field that holds the owner of a record. -/
  ownerField : String := "ownerId"
  records : List (String × Fields) := []
  /-- The tags of each record that ever had one. -/
  tags : List (String × List String) := []
deriving Repr, Inhabited

namespace Adapter

/-- The fields of a record. -/
def record? (a : Adapter) (id : String) : Option Fields := a.records.lookup id

/-- Writes one field of a record that is there. -/
def updateField (a : Adapter) (id field : String) (value : Value) : Except Failure Adapter :=
  match a.record? id with
  | none => .error (.recordNotFound a.entityType id)
  | some _ =>
    let written := fun (r : String × Fields) => (r.1, Fields.set r.2 field value)
    .ok { a with records := Keyed.modify Prod.fst id written a.records }

/-- How many of the records have a field equal to a value. -/
def countEqual (field : String) (value : Value) : List (String × Fields) → Except Failure Nat
  | [] => .ok 0
  | r :: rest => do
    let here ← (Fields.get r.2 field).equal value
    let others ← countEqual field value rest
    return (if here then 1 else 0) + others

/-- How many records a user owns. -/
def countOwned (a : Adapter) (user : Value) : Except Failure Nat :=
  countEqual a.ownerField user a.records

/-- The tags of a record. -/
def tagsOf (a : Adapter) (id : String) : List String := (a.tags.lookup id).getD []

/-- The adapter with the tags of a record set. -/
def withTags (a : Adapter) (id : String) (tags : List String) : Adapter :=
  { a with tags := Keyed.put Prod.fst (id, tags) a.tags }

/-- Attaches a tag to a record. -/
def connectTag (a : Adapter) (id tag : String) : Adapter :=
  if tag ∈ a.tagsOf id then a else a.withTags id (a.tagsOf id ++ [tag])

/-- Detaches a tag from a record. -/
def disconnectTag (a : Adapter) (id tag : String) : Adapter :=
  if tag ∈ a.tagsOf id then a.withTags id ((a.tagsOf id).filter (· ≠ tag)) else a

end Adapter

/-- The adapters by kind of entity. -/
abbrev Registry := List Adapter

namespace Registry

/-- The registry with an adapter registered, in place of an earlier one of its kind. -/
def register (r : Registry) (a : Adapter) : Registry := Keyed.put Adapter.entityType a r

/-- The registry without the adapter of a kind. -/
def unregister (r : Registry) (entityType : String) : Registry :=
  r.filter (·.entityType ≠ entityType)

/-- The adapter of a kind. -/
def adapter? (r : Registry) (entityType : String) : Option Adapter :=
  Keyed.find? Adapter.entityType entityType r

/-- The adapter of a kind that has to be there. -/
def adapter (r : Registry) (entityType : String) : Except Failure Adapter :=
  match r.adapter? entityType with
  | some a => .ok a
  | none => .error (.adapterNotFound entityType)

/-- The kinds of entity that have an adapter. -/
def entityTypes (r : Registry) : List String := r.map (·.entityType)

theorem adapter?_register (r : Registry) (a : Adapter) (entityType : String) :
    (r.register a).adapter? entityType =
      if a.entityType = entityType then some a else r.adapter? entityType :=
  Keyed.find?_put ..

end Registry
end RecordFlow
