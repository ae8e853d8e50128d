/-
# Next places — one step of the rotation in memory and in a table

Both stores move a cursor on by one and take a remainder.  In memory the
remainder counts from zero on; in a table it keeps the sign of the number it is
taken of, so that a place after a negative cursor may come out counted from the
end of the pool.  `steps_compared` tells for every cursor that a column holds
and every pool where the two stores take the same step, and which one the table
takes where they do not.  The greatest number of a column stands apart: the
table cannot count past it.
-/
import RecordFlow.Proofs.Cursors

namespace RecordFlow

/-! ## The two remainders -/

theorem MemoryStore.nextPlace_eq_emod {size : Int} (positive : 0 < size) (cursor : Int) :
    nextPlace cursor size = (cursor + 1) % size :=
  Int.fmod_eq_emod_of_nonneg _ positive.le

namespace RelationalStore

/-- Below the end of its column a table gives the place that the memory store gives, or the same
place counted from the end of the pool. -/
theorem nextPlace_eq_emod_sub {size cursor : Int} (positive : 0 < size)
    (below : cursor < Column.greatest) :
    nextPlace cursor size
      = (cursor + 1) % size - if -1 ≤ cursor ∨ size ∣ cursor + 1 then 0 else size := by
  have sign : 0 ≤ cursor + 1 ↔ -1 ≤ cursor := by omega
  have whole : ((size.natAbs : Nat) : Int) = size := Int.natAbs_of_nonneg positive.le
  rw [nextPlace, if_pos below, Int.tmod_eq_emod]
  simp only [sign]
  split
  · rfl
  · rw [whole]

/-- At the end of its column a table takes the remainder of the cursor itself. -/
theorem nextPlace_greatest (size : Int) :
    nextPlace Column.greatest size = inFloatingPoint (Column.greatest % size) := by
  rw [nextPlace, if_neg (lt_irrefl _), Int.tmod_eq_emod_of_nonneg (by decide)]

/-- The place of the greatest number is that of the next one in a pool of one only. -/
theorem nextPlace_greatest_eq_iff {size : Int} (positive : 0 < size) (short : size ≤ 2 ^ 53) :
    nextPlace Column.greatest size = (Column.greatest + 1) % size ↔ size = 1 := by
  have nonneg := Int.emod_nonneg Column.greatest positive.ne'
  have inside := Int.emod_lt_of_pos Column.greatest positive
  rw [nextPlace_greatest, inFloatingPoint_short nonneg (lt_of_lt_of_le inside short)]
  constructor
  · intro same
    have divides : size ∣ Column.greatest + 1 - Column.greatest := Int.modEq_iff_dvd.mp same
    rw [add_sub_cancel_left] at divides
    exact Int.eq_one_of_dvd_one positive.le divides
  · rintro rfl
    rw [Int.emod_one, Int.emod_one]

/-- A table refuses to count with a pool that its columns cannot. -/
theorem advanceRotation_vast {s : RelationalStore} {id : Uid} {size : Int}
    (vast : Column.greatest < size) : s.advanceRotation id size = .error .wholeBeyondColumn := by
  rw [advanceRotation, Column.whole, if_neg fun held => absurd held.2 (not_le.mpr vast)]
  rfl

end RelationalStore

/-! ## The two steps -/

/-- The place that a table gives after a cursor, set beside the one that is told by the remainder
from zero on. -/
structure IsTablePlace (size cursor place : Int) : Prop where
  /-- The two are the same from the cursor -1 on and where a round of the pool is full. -/
  same : cursor < Column.greatest →
    (place = (cursor + 1) % size ↔ -1 ≤ cursor ∨ size ∣ cursor + 1)
  /-- Elsewhere the table gives the same position, counted from the end of the pool. -/
  turned : cursor < Column.greatest → place ≠ (cursor + 1) % size →
    place = (cursor + 1) % size - size
  /-- The greatest number is not counted past. -/
  last : cursor = Column.greatest → place = RelationalStore.inFloatingPoint (cursor % size)
  lastSame : cursor = Column.greatest → size ≤ 2 ^ 53 →
    (place = (cursor + 1) % size ↔ size = 1)

theorem RelationalStore.isTablePlace_nextPlace {size cursor : Int} (positive : 0 < size) :
    IsTablePlace size cursor (nextPlace cursor size) where
  same below := by
    rw [nextPlace_eq_emod_sub positive below]
    split <;> simp_all [positive.ne']
  turned below other := by
    rw [nextPlace_eq_emod_sub positive below] at other ⊢
    split
    · rename_i from_zero
      rw [if_pos from_zero, sub_zero] at other
      exact absurd rfl other
    · rfl
  last end_ := end_ ▸ nextPlace_greatest size
  lastSame end_ short := end_ ▸ nextPlace_greatest_eq_iff positive short

/-- Where both stores hold a rule with the same cursor, the memory store gives and writes down the
remainder of the next number from zero on, for a pool of any size; a table gives and writes down a
place of its own reckoning, which is the same one from the cursor -1 on, and refuses a pool that
its columns cannot count. -/
theorem steps_compared {m : MemoryStore} {s : RelationalStore} {id : Uid}
    {rule : Filed AssignmentRule} {row : RuleRow} {size : Int}
    (inMemory : m.getRule id = some rule)
    (inTable : Keyed.find? RuleRow.id id s.rules = some row)
    (alike : row.cursor = rule.record.cursor) (positive : 1 ≤ size) :
    (∃ m', m.advanceRotation id size = .ok (some ((row.cursor + 1) % size), m') ∧
      (m'.getRule id).map (·.record.cursor) = some ((row.cursor + 1) % size)) ∧
    (0 ≤ (row.cursor + 1) % size ∧ (row.cursor + 1) % size < size) ∧
    (size ≤ Column.greatest → ∃ place s', s.advanceRotation id size = .ok (some place, s') ∧
      (Keyed.find? RuleRow.id id s'.rules).map (·.cursor) = some place ∧
      IsTablePlace size row.cursor place) ∧
    (Column.greatest < size → s.advanceRotation id size = .error .wholeBeyondColumn) := by
  refine ⟨?_, ⟨Int.emod_nonneg _ (by omega), Int.emod_lt_of_pos _ (by omega)⟩, ?_,
    RelationalStore.advanceRotation_vast⟩
  · obtain ⟨m', moved, shown⟩ := MemoryStore.advanceRotation_found inMemory positive
    rw [MemoryStore.nextPlace_eq_emod positive, ← alike] at moved shown
    exact ⟨m', moved, shown⟩
  · intro countable
    obtain ⟨s', moved, shown⟩ := RelationalStore.advanceRotation_found inTable positive countable
    exact ⟨_, s', moved, shown, RelationalStore.isTablePlace_nextPlace positive⟩

/-- A rule whose cursor stands two places before the first. -/
def backedRule : AssignmentRule where
  id := ⟨1⟩
  entityType := "contacts"
  method := .known .roundRobin
  userIds := ["ann", "bob", "cid"]
  cursor := -2

/-- The rule in memory. -/
def backedMemory : MemoryStore := { rules := [⟨none, backedRule⟩] }

/-- The rule in a table. -/
def backedTables : RelationalStore := (({} : RelationalStore).addRule backedRule).2

/-- The last place of three is told as 2 in memory and as -1 in a table. -/
theorem backedRule_steps :
    ∃ row, backedMemory.getRule ⟨1⟩ = some ⟨none, backedRule⟩ ∧
      Keyed.find? RuleRow.id ⟨1⟩ backedTables.rules = some row ∧ row.cursor = -2 ∧
      (∃ m', backedMemory.advanceRotation ⟨1⟩ 3 = .ok (some 2, m') ∧
        (m'.getRule ⟨1⟩).map (·.record.cursor) = some 2) ∧
      ∃ s', backedTables.advanceRotation ⟨1⟩ 3 = .ok (some (-1), s') ∧
        (Keyed.find? RuleRow.id ⟨1⟩ s'.rules).map (·.cursor) = some (-1) := by
  have inMemory : backedMemory.getRule ⟨1⟩ = some ⟨none, backedRule⟩ := rfl
  obtain ⟨row, inTable, back⟩ : ∃ row,
      Keyed.find? RuleRow.id ⟨1⟩ backedTables.rules = some row ∧ row.cursor = -2 := ⟨_, rfl, rfl⟩
  obtain ⟨moved, _, counted, _⟩ := steps_compared inMemory inTable back (by decide : (1 : Int) ≤ 3)
  obtain ⟨place, s', turned, shown, told⟩ := counted (by decide)
  rw [back] at moved told
  have below : (-2 : Int) < Column.greatest := by decide
  have other : place ≠ 2 := fun same => absurd ((told.same below).mp same) (by decide)
  obtain rfl : place = -1 := told.turned below other
  exact ⟨row, inMemory, inTable, back, moved, s', turned, shown⟩

end RecordFlow
