/-
# Cursors — where a rule stands in its pool, and what moves it on

The cursor of a round-robin rule is kept by the memory store, in a table, or,
where the store does not hold the rule, by those who share it.  Each keeper
moves it on in a way of its own: a place may be counted from either end of the
pool, and in a table the greatest whole number is as good as the one before
it.  What all have in common is told by `Rotates`: the next place is given, and
nothing else that matters is changed.
-/
import Mathlib.Data.Int.ModEq
import RecordFlow.Proofs.Aside
import RecordFlow.Proofs.Exactness

namespace RecordFlow

/-! ## Pools and cursors -/

/-- The pool of a rule in a world. -/
def World.poolOf (w : World) (rule : AssignmentRule) : List String :=
  if !rule.userIds.isEmpty then rule.userIds
  else match Assignment.given? rule.teamId with
    | some team => w.services.teamMembers team
    | none => []

/-- The pool is known from the rule alone, or its team is asked for it. -/
theorem Assignment.candidatePool_cases (rule : AssignmentRule) (w : World) :
    candidatePool rule = pure (w.poolOf rule) ∨
      ∃ team, rule.userIds = [] ∧ given? rule.teamId = some team ∧
        w.poolOf rule = w.services.teamMembers team ∧
        candidatePool rule = Prog.ask (.teamMembers team) := by
  unfold candidatePool World.poolOf
  cases rule.userIds with
  | cons user users => exact .inl rfl
  | nil =>
      cases given? rule.teamId with
      | none => exact .inl rfl
      | some team => exact .inr ⟨team, rfl, rfl, rfl, rfl⟩

/-- Whether the store holds a rule. -/
def Store.holdsRule (id : Uid) : Store → Bool
  | memory m => (m.getRule id).isSome
  | relational s => (Keyed.find? RuleRow.id id s.rules).isSome

/-- The rule that is shared in a slot. -/
def World.sharedRule? (w : World) (slot : Option Nat) : Option (String × Filed AssignmentRule) :=
  w.rules.find? fun r => r.2.slot.isSome && r.2.slot = slot

/-- Who keeps the cursor of a rule: a store in memory or in a table, or those who hold a rule that
the store does not know. -/
inductive Keeper where
  | memory | table | holders
deriving DecidableEq, Repr

/-- The cursor of a rule with its keeper. -/
def Keeper.cursor? (rule : Filed AssignmentRule) (w : World) : Keeper → Option Int
  | memory => match w.store with
    | .memory m => (m.getRule rule.record.id).map (·.record.cursor)
    | .relational _ => none
  | table => match w.store with
    | .memory _ => none
    | .relational s => (Keyed.find? RuleRow.id rule.record.id s.rules).map (·.cursor)
  | holders =>
    if w.store.holdsRule rule.record.id then none
    else (w.sharedRule? rule.slot).map (·.2.record.cursor)

/-- What a column holds, and for its greatest number a pool whose places are exact in floating
point; other keepers keep any cursor. -/
def Keeper.IsKept (size cursor : Int) (keeper : Keeper) : Prop :=
  keeper = .table → cursor < Column.greatest ∨ cursor = Column.greatest ∧ size ≤ 2 ^ 53

/-- The cursor from which the next place is told: in a table the greatest whole number is as good
as the one before it. -/
def Keeper.reckoned (cursor : Int) (keeper : Keeper) : Int :=
  if keeper = .table ∧ cursor = Column.greatest then cursor - 1 else cursor

/-- What may happen outside meanwhile: nothing to stores, rules and teams, and no failure. -/
structure World.Undisturbed (w w' : World) : Prop where
  store : w'.store = w.store
  rules : w'.rules = w.rules
  teams : w'.services.teams = w.services.teams
  faults : w'.faults = w.faults

/-- A rule as a call may hold it: it is the rule but for its cursor, in the slot in which it is
shared where the cursor is kept there. -/
structure Keeper.Holds (keeper : Keeper) (rule r : Filed AssignmentRule) : Prop where
  record : r.record = World.atPlace r.record.cursor rule.record
  slot : keeper = .holders → r.slot = rule.slot

/-! ## Places -/

/-- A place that is next after a cursor, from either end of a pool. -/
structure IsNext (size cursor place : Int) : Prop where
  least : -size ≤ place
  below : place < size
  next : place ≡ cursor + 1 [ZMOD size]

theorem MemoryStore.isNext_nextPlace {size : Int} (positive : 0 < size) (cursor : Int) :
    IsNext size cursor (nextPlace cursor size) := by
  have same : nextPlace cursor size = (cursor + 1) % size :=
    Int.fmod_eq_emod_of_nonneg _ positive.le
  have nonneg := Int.emod_nonneg (cursor + 1) positive.ne'
  exact ⟨by omega, same ▸ Int.emod_lt_of_pos _ positive, same ▸ Int.mod_modEq _ _⟩

theorem isNext_tmod {size : Int} (positive : 0 < size) (cursor : Int) :
    IsNext size cursor ((cursor + 1).tmod size) := by
  refine ⟨(Int.lt_tmod_of_pos _ positive).le, Int.tmod_lt_of_pos _ positive, ?_⟩
  rw [Int.modEq_iff_dvd, Int.tmod_def, sub_sub_cancel]
  exact Int.dvd_mul_right _ _

/-- In a table the place after the greatest whole number is that of this number itself. -/
theorem RelationalStore.isNext_nextPlace {size cursor : Int} (positive : 0 < size)
    (column : cursor < Column.greatest ∨ cursor = Column.greatest ∧ size ≤ 2 ^ 53) :
    IsNext size (Keeper.table.reckoned cursor) (nextPlace cursor size) := by
  rcases column with below | ⟨rfl, short⟩
  · rw [Keeper.reckoned, if_neg fun h => below.ne h.2, nextPlace, if_pos below]
    exact isNext_tmod positive cursor
  · have next := isNext_tmod positive (Column.greatest - 1)
    rw [Int.sub_add_cancel] at next
    have nonneg : 0 ≤ Column.greatest.tmod size := Int.tmod_nonneg size (by decide)
    rw [Keeper.reckoned, if_pos ⟨rfl, rfl⟩, nextPlace, if_neg (lt_irrefl _),
      inFloatingPoint_short nonneg (lt_of_lt_of_le next.below short)]
    exact next

/-- Whatever the cursor in a table, the next place is one of the pool. -/
theorem RelationalStore.nextPlace_inside {size : Int} (positive : 0 < size)
    (short : size ≤ 2 ^ 53) (cursor : Int) :
    -size ≤ nextPlace cursor size ∧ nextPlace cursor size < size := by
  unfold nextPlace
  split
  · exact ⟨(Int.lt_tmod_of_pos _ positive).le, Int.tmod_lt_of_pos _ positive⟩
  · have nonneg : 0 ≤ Column.greatest.tmod size := Int.tmod_nonneg size (by decide)
    have below := Int.tmod_lt_of_pos Column.greatest positive
    rw [inFloatingPoint_short nonneg (lt_of_lt_of_le below short)]
    exact ⟨by omega, below⟩

/-- A place from either end of a pool is one of its positions. -/
theorem Assignment.userAt_position {pool : List String} {place : Int}
    (least : -(pool.length : Int) ≤ place) (below : place < pool.length) :
    (place % pool.length).toNat < pool.length ∧
      userAt pool place = pool[(place % pool.length).toNat]? := by
  unfold userAt
  by_cases negative : place < 0
  · have same : place % pool.length = pool.length + place := by
      rw [← Int.add_emod_right, Int.add_comm]
      exact Int.emod_eq_of_lt (by omega) (by omega)
    rw [if_pos negative, same]
    exact ⟨by omega, rfl⟩
  · have same : place % pool.length = place := Int.emod_eq_of_lt (by omega) below
    rw [if_neg negative, same]
    exact ⟨by omega, rfl⟩

/-! ## Edits of rules -/

theorem Keyed.find?_map {κ α β : Type} [DecidableEq κ] {key : α → κ} {key' : β → κ} {k : κ}
    {f : α → β} (keyed : ∀ a, key' (f a) = key a) (xs : List α) :
    Keyed.find? key' k (xs.map f) = (Keyed.find? key k xs).map f := by
  rw [Keyed.find?, Keyed.find?, List.find?_map]
  exact congrArg _ (congrArg (List.find? · xs) (funext fun a => by simp [keyed]))

namespace Filed

/-- A record as an edit of a slot leaves it. -/
def after {α : Type} (slot : Option Nat) (f : α → α) (r : Filed α) : Filed α :=
  (editAll slot f [r]).headD r

variable {α : Type} {slot : Option Nat} {f : α → α}

theorem editAll_eq_map (rs : List (Filed α)) : editAll slot f rs = rs.map (after slot f) := by
  cases slot with
  | none => exact (List.map_id rs).symm
  | some s => rfl

theorem after_slot (r : Filed α) : (after slot f r).slot = r.slot := by
  cases slot with
  | none => rfl
  | some s =>
      show (edit s f r).slot = _
      unfold edit
      split <;> rfl

theorem after_record (r : Filed α) :
    (after slot f r).record = r.record ∨ (after slot f r).record = f r.record := by
  cases slot with
  | none => exact .inl rfl
  | some s =>
      show (edit s f r).record = _ ∨ (edit s f r).record = _
      unfold edit
      split
      · exact .inr rfl
      · exact .inl rfl

theorem after_record_of_slot {r : Filed α} (here : r.slot = slot) (some : slot.isSome = true) :
    (after slot f r).record = f r.record := by
  cases slot with
  | none => cases some
  | some s =>
      show (edit s f r).record = _
      rw [edit, if_pos here]

end Filed

/-- A rule is found under its identifier where its cursor was written. -/
theorem MemoryStore.getRule_atPlace {slot : Option Nat} {place : Int} (m : MemoryStore) (id : Uid) :
    MemoryStore.getRule { m with rules := Filed.editAll slot (World.atPlace place) m.rules } id
      = (m.getRule id).map (Filed.after slot (World.atPlace place)) := by
  show Keyed.find? ruleKey id (Filed.editAll slot _ m.rules) = _
  rw [Filed.editAll_eq_map]
  refine Keyed.find?_map (fun r => ?_) m.rules
  rcases Filed.after_record r with same | edited
  · exact congrArg AssignmentRule.id same
  · exact (congrArg AssignmentRule.id edited).trans rfl

namespace World

variable {w : World} {slot : Option Nat} {place : Int}

theorem holdsRule_editRule (id : Uid) :
    (w.editRule slot (atPlace place)).store.holdsRule id = w.store.holdsRule id := by
  show (w.store.editRule slot (atPlace place)).holdsRule id = _
  cases w.store with
  | relational s => rfl
  | memory m =>
      show (MemoryStore.getRule _ id).isSome = (m.getRule id).isSome
      rw [MemoryStore.getRule_atPlace, Option.isSome_map]

theorem sharedRule?_editRule {wanted : Option Nat} :
    (w.editRule slot (atPlace place)).sharedRule? wanted
      = (w.sharedRule? wanted).map fun r => (r.1, r.2.after slot (atPlace place)) := by
  show (w.rules.map fun r => (r.1, r.2.after slot (atPlace place))).find? _ = _
  rw [List.find?_map]
  refine congrArg _ (congrArg (List.find? · w.rules) (funext fun r => ?_))
  simp [Filed.after_slot]

end World

/-! ## Cursors -/

namespace Keeper

variable {keeper : Keeper} {rule r : Filed AssignmentRule} {w : World} {cursor place : Int}

theorem cursor?_memory :
    memory.cursor? rule w = some cursor ↔ ∃ m filed, w.store = .memory m ∧
      m.getRule rule.record.id = some filed ∧ filed.record.cursor = cursor := by
  unfold cursor?
  cases w.store <;> simp

theorem cursor?_table :
    table.cursor? rule w = some cursor ↔ ∃ s row, w.store = .relational s ∧
      Keyed.find? RuleRow.id rule.record.id s.rules = some row ∧ row.cursor = cursor := by
  unfold cursor?
  cases w.store <;> simp

theorem cursor?_holders :
    holders.cursor? rule w = some cursor ↔ w.store.holdsRule rule.record.id = false ∧
      ∃ shared, w.sharedRule? rule.slot = some shared ∧ shared.2.record.cursor = cursor := by
  unfold cursor?
  cases w.store.holdsRule rule.record.id <;> simp

/-- A write of the cursor as it stands changes nothing of it. -/
theorem cursor?_editRule (kept : keeper.cursor? rule w = some place) (slot : Option Nat) :
    keeper.cursor? rule (w.editRule slot (World.atPlace place)) = some place := by
  have still {x : Filed AssignmentRule} (at_ : x.record.cursor = place) :
      (x.after slot (World.atPlace place)).record.cursor = place := by
    rcases Filed.after_record x with same | edited
    · rw [same, at_]
    · rw [edited]
      rfl
  cases keeper with
  | memory =>
      obtain ⟨m, filed, hm, found, at_⟩ := cursor?_memory.mp kept
      refine cursor?_memory.mpr ⟨_, _, congrArg (Store.editRule · slot _) hm, ?_, still at_⟩
      rw [MemoryStore.getRule_atPlace, found, Option.map_some]
  | table =>
      obtain ⟨s, row, hs, found, at_⟩ := cursor?_table.mp kept
      exact cursor?_table.mpr ⟨s, row, congrArg (Store.editRule · slot _) hs, found, at_⟩
  | holders =>
      obtain ⟨lacks, shared, found, at_⟩ := cursor?_holders.mp kept
      have shown : (w.editRule slot (World.atPlace place)).sharedRule? rule.slot
          = some (shared.1, shared.2.after slot (World.atPlace place)) := by
        rw [World.sharedRule?_editRule, found, Option.map_some]
      exact cursor?_holders.mpr ⟨(World.holdsRule_editRule _).trans lacks, _, shown, still at_⟩

theorem reckoned_of_below (below : keeper = .table → cursor < Column.greatest) :
    keeper.reckoned cursor = cursor :=
  if_neg fun h => absurd h.2 (below h.1).ne

end Keeper

/-! ## Moving a cursor -/

theorem Keyed.find?_modify_of {κ α : Type} [DecidableEq κ] {key : α → κ} {k : κ} {f : α → α}
    (keyed : ∀ a, key (f a) = key a) {x : α} {xs : List α} (found : Keyed.find? key k xs = some x) :
    Keyed.find? key k (Keyed.modify key k f xs) = some (f x) := by
  have same : ∀ a, key (if key a = k then f a else a) = key a := fun a => by
    split
    · exact keyed a
    · rfl
  rw [Keyed.modify, Keyed.find?_map same, found, Option.map_some, if_pos (find?_mem found).2]

/-- A filed rule with its cursor at a place. -/
def Filed.atPlace (place : Int) (r : Filed AssignmentRule) : Filed AssignmentRule :=
  { r with record := World.atPlace place r.record }

/-- The row of a rule with its cursor at a place. -/
def RuleRow.atPlace (place : Int) (r : RuleRow) : RuleRow := { r with cursor := place }

/-- The memory store writes the next place to the rule. -/
theorem MemoryStore.advanceRotation_eq {m : MemoryStore} {id : Uid} {size : Int}
    {r : Filed AssignmentRule} (found : m.getRule id = some r) (positive : 0 < size) :
    m.advanceRotation id size = .ok (some (nextPlace r.record.cursor size), { m with
      rules := Keyed.modify ruleKey id (Filed.atPlace (nextPlace r.record.cursor size))
        m.rules }) := by
  unfold advanceRotation
  rw [found]
  exact if_neg positive.ne'

/-- The memory store moves a cursor on. -/
theorem MemoryStore.advanceRotation_absent {m : MemoryStore} {id : Uid} {size : Int}
    (absent : m.getRule id = none) : m.advanceRotation id size = .ok (none, m) := by
  rw [advanceRotation, absent]

theorem MemoryStore.advanceRotation_found {m : MemoryStore} {id : Uid} {size : Int}
    {r : Filed AssignmentRule} (found : m.getRule id = some r) (positive : 0 < size) :
    ∃ m', m.advanceRotation id size = .ok (some (nextPlace r.record.cursor size), m') ∧
      (m'.getRule id).map (·.record.cursor) = some (nextPlace r.record.cursor size) := by
  refine ⟨_, advanceRotation_eq found positive, ?_⟩
  exact congrArg (Option.map _)
    (Keyed.find?_modify_of (f := Filed.atPlace _) (fun _ => rfl) found)

theorem Column.whole_of_le {n : Int} (nonneg : 0 ≤ n) (le : n ≤ greatest) : whole n = .ok n :=
  if_pos ⟨le_trans (by decide) nonneg, le⟩

/-- The next place is written to the row of the rule. -/
theorem RelationalStore.advanceRotation_eq {s : RelationalStore} {id : Uid} {size : Int}
    {row : RuleRow} (found : Keyed.find? RuleRow.id id s.rules = some row) (positive : 0 < size)
    (countable : size ≤ Column.greatest) :
    s.advanceRotation id size = .ok (some (nextPlace row.cursor size), { s with
      rules := Keyed.modify RuleRow.id id (RuleRow.atPlace (nextPlace row.cursor size))
        s.rules }) := by
  unfold advanceRotation
  rw [Column.whole_of_le positive.le countable, found]
  show (if size = 0 then _ else _) = _
  rw [if_neg positive.ne']
  rfl

/-- A table moves a cursor on. -/
theorem RelationalStore.advanceRotation_absent {s : RelationalStore} {id : Uid} {size : Int}
    (absent : Keyed.find? RuleRow.id id s.rules = none) (nonneg : 0 ≤ size)
    (countable : size ≤ Column.greatest) : s.advanceRotation id size = .ok (none, s) := by
  rw [advanceRotation, Column.whole_of_le nonneg countable]
  simp only [bind, Except.bind, absent]
  rfl

theorem RelationalStore.advanceRotation_found {s : RelationalStore} {id : Uid} {size : Int}
    {row : RuleRow} (found : Keyed.find? RuleRow.id id s.rules = some row) (positive : 0 < size)
    (countable : size ≤ Column.greatest) :
    ∃ s', s.advanceRotation id size = .ok (some (nextPlace row.cursor size), s') ∧
      (Keyed.find? RuleRow.id id s'.rules).map (·.cursor) = some (nextPlace row.cursor size) := by
  refine ⟨_, advanceRotation_eq found positive countable, ?_⟩
  exact congrArg (Option.map _)
    (Keyed.find?_modify_of (f := RuleRow.atPlace _) (fun _ => rfl) found)

/-- A world in which the places of a pool are handed out for a rule. -/
structure Rotates (keeper : Keeper) (rule : Filed AssignmentRule) (pool : List String)
    (cursor : Int) (w : World) : Prop where
  advances : w.Spares "store.advance_rotation"
  resolves : w.Spares "services.resolve_team_members"
  draws : w.poolOf rule.record = pool
  kept : keeper.cursor? rule w = some cursor
  column : keeper.IsKept pool.length cursor

namespace Rotates

variable {keeper : Keeper} {rule r : Filed AssignmentRule} {pool : List String} {cursor : Int}
  {w w' : World}

/-- The cursor is moved on, and all else that matters stays. -/
theorem move (h : Rotates keeper rule pool cursor w) {place : Int}
    (below : place < pool.length) (countable : (pool.length : Int) ≤ Column.greatest)
    (faults : w'.faults = w.faults) (services : w'.services = w.services)
    (moved : keeper.cursor? rule w' = some place) : Rotates keeper rule pool place w' where
  advances := by rw [World.Spares, faults]; exact h.advances
  resolves := by rw [World.Spares, faults]; exact h.resolves
  draws := by rw [World.poolOf, services]; exact h.draws
  kept := moved
  column _ := .inl (lt_of_lt_of_le below countable)

theorem answer_advance (h : Rotates keeper rule pool cursor w) (id : Uid) :
    w.answer (.advanceRotation id pool.length) = w.perform (.advanceRotation id pool.length) :=
  World.answer_of_spared rfl h.advances rfl rfl

/-- A store that keeps the cursor moves it on and gives the place. -/
theorem advance (h : Rotates keeper rule pool cursor w) (staffed : 0 < (pool.length : Int))
    (countable : (pool.length : Int) ≤ Column.greatest) (stored : keeper ≠ .holders) :
    ∃ place w', w.answer (.advanceRotation rule.record.id pool.length) = (.ok (some place), w') ∧
      IsNext pool.length (keeper.reckoned cursor) place ∧ Rotates keeper rule pool place w' ∧
      w'.store.isMemory = decide (keeper = .memory) := by
  rw [h.answer_advance]
  cases keeper with
  | holders => exact absurd rfl stored
  | memory =>
      obtain ⟨m, filed, hm, found, rfl⟩ := Keeper.cursor?_memory.mp h.kept
      obtain ⟨m', moved, shown⟩ := MemoryStore.advanceRotation_found found staffed
      have next := MemoryStore.isNext_nextPlace staffed filed.record.cursor
      have store : w.store.advanceRotation rule.record.id pool.length
          = .ok (some (MemoryStore.nextPlace filed.record.cursor pool.length), .memory m') := by
        rw [hm, Store.advanceRotation, moved]
        rfl
      have kept : Keeper.memory.cursor? rule (w.withStore (.memory m')) = _ := shown
      have kept := Keeper.cursor?_editRule kept ((Store.memory m').ruleSlot rule.record.id)
      have moves := h.move next.below countable (by rfl) (by rfl) kept
      have same : Keeper.memory.reckoned filed.record.cursor = filed.record.cursor :=
        Keeper.reckoned_of_below fun no => by cases no
      rw [same]
      refine ⟨_, _, ?_, next, moves, rfl⟩
      simp only [World.perform, store]
      rfl
  | table =>
      obtain ⟨s, row, hs, found, rfl⟩ := Keeper.cursor?_table.mp h.kept
      obtain ⟨s', moved, shown⟩ := RelationalStore.advanceRotation_found found staffed countable
      have next := RelationalStore.isNext_nextPlace staffed (h.column rfl)
      have store : w.store.advanceRotation rule.record.id pool.length
          = .ok (some (RelationalStore.nextPlace row.cursor pool.length), .relational s') := by
        rw [hs, Store.advanceRotation, moved]
        rfl
      have kept : Keeper.table.cursor? rule (w.withStore (.relational s')) = _ := shown
      have kept := Keeper.cursor?_editRule kept none
      have moves := h.move next.below countable (by rfl) (by rfl) kept
      refine ⟨_, _, ?_, next, moves, rfl⟩
      simp only [World.perform, store]
      rfl

/-- A store that does not know the rule has no place to give. -/
theorem pass (h : Rotates .holders rule pool cursor w)
    (countable : (pool.length : Int) ≤ Column.greatest) :
    w.answer (.advanceRotation rule.record.id pool.length) = (.ok none, w) := by
  have lacks := (Keeper.cursor?_holders.mp h.kept).1
  have store : w.store.advanceRotation rule.record.id pool.length = .ok (none, w.store) := by
    cases hs : w.store with
    | memory m =>
        rw [hs] at lacks
        have absent : m.getRule rule.record.id = none := Option.not_isSome_iff_eq_none.mp (by
          rw [← Bool.not_eq_true] at lacks; exact lacks)
        rw [Store.advanceRotation, MemoryStore.advanceRotation_absent absent]
        rfl
    | relational s =>
        rw [hs] at lacks
        have absent : Keyed.find? RuleRow.id rule.record.id s.rules = none :=
          Option.not_isSome_iff_eq_none.mp (by rw [← Bool.not_eq_true] at lacks; exact lacks)
        rw [Store.advanceRotation, RelationalStore.advanceRotation_absent absent
          (Int.natCast_nonneg _) countable]
        rfl
  rw [h.answer_advance]
  simp only [World.perform, store]
  rfl

/-- Those who hold a rule move its cursor on themselves. -/
theorem turn (h : Rotates .holders rule pool cursor w) (staffed : 0 < (pool.length : Int))
    (countable : (pool.length : Int) ≤ Column.greatest) (holds : Keeper.holders.Holds rule r) :
    ∃ place w', w.answer (.turnCursor r pool.length) = (.ok place, w') ∧
      IsNext pool.length (Keeper.holders.reckoned cursor) place ∧
      Rotates .holders rule pool place w' := by
  obtain ⟨lacks, shared, found, at_⟩ := Keeper.cursor?_holders.mp h.kept
  have slot := holds.slot rfl
  have cursorOf : w.cursorOf r = cursor := by
    rw [← at_, World.cursorOf, slot]
    rw [World.sharedRule?] at found
    rw [found]
  have next := MemoryStore.isNext_nextPlace staffed cursor
  have here : shared.2.slot.isSome = true ∧ shared.2.slot = rule.slot := by
    simpa using List.find?_some found
  have moved : Keeper.holders.cursor? rule (w.editRule rule.slot (World.atPlace
      (MemoryStore.nextPlace cursor pool.length)))
        = some (MemoryStore.nextPlace cursor pool.length) := by
    refine Keeper.cursor?_holders.mpr ⟨(World.holdsRule_editRule _).trans lacks, _,
      (World.sharedRule?_editRule).trans (congrArg (Option.map _) found), ?_⟩
    rw [Filed.after_record_of_slot here.2 (here.2 ▸ here.1)]
    rfl
  have same : Keeper.holders.reckoned cursor = cursor :=
    Keeper.reckoned_of_below fun no => by cases no
  rw [same]
  refine ⟨_, _, ?_, next, h.move next.below countable (by rfl) (by rfl) moved⟩
  show (Except.ok (MemoryStore.nextPlace (w.cursorOf r) pool.length), w.editRule r.slot
    (World.atPlace (MemoryStore.nextPlace (w.cursorOf r) pool.length))) = _
  rw [cursorOf, slot]

/-- Over tables, and where a place is written as it stands, a write-back changes nothing. -/
theorem writeBack (h : Rotates keeper rule pool cursor w) {place : Int} (slot : Option Nat)
    (same : keeper = .table ∨ place = cursor) :
    Rotates keeper rule pool cursor (w.editRule slot (World.atPlace place)) := by
  refine ⟨h.advances, h.resolves, h.draws, ?_, h.column⟩
  rcases same with rfl | rfl
  · obtain ⟨s, row, hs, found, at_⟩ := Keeper.cursor?_table.mp h.kept
    exact Keeper.cursor?_table.mpr ⟨s, row, congrArg (Store.editRule · slot _) hs, found, at_⟩
  · exact Keeper.cursor?_editRule h.kept slot

theorem undisturbed (h : Rotates keeper rule pool cursor w) (same : w.Undisturbed w') :
    Rotates keeper rule pool cursor w' := by
  refine ⟨?_, ?_, ?_, ?_, h.column⟩
  · rw [World.Spares, same.faults]
    exact h.advances
  · rw [World.Spares, same.faults]
    exact h.resolves
  · unfold World.poolOf Services.teamMembers
    rw [same.teams]
    exact h.draws
  · rw [← h.kept]
    unfold Keeper.cursor? World.sharedRule?
    rw [same.store, same.rules]

end Rotates

end RecordFlow
