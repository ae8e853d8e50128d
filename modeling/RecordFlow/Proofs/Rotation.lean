/-
# Rotation — the places of a pool go round

A round-robin rule hands out the places of its pool one after the other.
Whoever keeps its cursor, and however calls for the rule take turns, every
place is handed out equally often, and the cursor comes round to where it was;
and a pool that is of another size by and by has no place handed out that it
does not have.

A call lets others go on where it waits for an answer.  The memory store gives
its answers without waiting for anything, so the place that it gave is written
back to the rule before others go on; over tables others may go on in between.
-/
import Mathlib.Data.List.Nodup
import Mathlib.Logic.Relation
import RecordFlow.Proofs.Cursors
import RecordFlow.Proofs.RunOnce

namespace RecordFlow

/-! ## Calls that take turns -/

namespace Prog

variable {α β : Type}

/-- Over the memory store a place is written back to its rule at once. -/
def goOn : Prog α → World → Prog α × World
  | .call (.writeCursor rule place) rest, w =>
    if w.store.isMemory then
      (rest (w.answer (.writeCursor rule place)).1, (w.answer (.writeCursor rule place)).2)
    else (.call (.writeCursor rule place) rest, w)
  | m, w => (m, w)

/-- What a call does until others go on: a request, and what it does at once after the answer. -/
def bout : Prog α → World → Prog α × World
  | .call r rest, w => (rest (w.answer r).1).goOn (w.answer r).2
  | m, w => (m, w)

theorem bout_ask_bind {r : Request} {rest : r.Answer → Prog β} {w w' : World} {a : r.Answer}
    (answered : w.answer r = (.ok a, w')) : (ask r >>= rest).bout w = (rest a).goOn w' := by
  show ((ask r).bind rest).bout w = _
  rw [ask, Prog.bind, bout, answered]
  rfl

end Prog

/-- A system whose calls take turns: one of them has a bout, or something happens outside. -/
inductive System.Turn {α : Type} (outside : World → World → Prop) : System α → System α → Prop where
  | bout (w : World) (before after : List (Prog α)) (m : Prog α) (tasks : List Task) :
      Turn outside ⟨w, before ++ m :: after, tasks⟩
        ⟨(m.bout w).2, before ++ (m.bout w).1 :: after, tasks⟩
  | change (w w' : World) (calls : List (Prog α)) (tasks : List Task) (allowed : outside w w') :
      Turn outside ⟨w, calls, tasks⟩ ⟨w', calls, tasks⟩

namespace System

variable {α : Type} {outside : World → World → Prop}

/-- Bout by bout, a call among others comes to its end. -/
def Turn.CanEnd (outside : World → World → Prop) (m : Prog α) (w : World) : Prop :=
  ∀ before after tasks, ∃ w' m', m'.isOver = true ∧
    Relation.ReflTransGen (Turn outside) ⟨w, before ++ m :: after, tasks⟩
      ⟨w', before ++ m' :: after, tasks⟩

theorem Turn.canEnd_of_bout {m : Prog α} {w : World}
    (h : CanEnd outside (m.bout w).1 (m.bout w).2) : CanEnd outside m w := by
  intro before after tasks
  obtain ⟨w', m', isOver, goesOn⟩ := h before after tasks
  exact ⟨w', m', isOver, goesOn.head (.bout w before after m tasks)⟩

/-- Every call comes to its end, also where it goes on at once. -/
theorem Turn.canEnd (m : Prog α) : ∀ w, CanEnd outside m w ∧
    CanEnd outside (m.goOn w).1 (m.goOn w).2 := by
  have ended {m : Prog α} (isOver : m.isOver = true) (w : World) : CanEnd outside m w :=
    fun _ _ _ => ⟨w, m, isOver, .refl⟩
  induction m with
  | done a => exact fun w => ⟨ended rfl w, ended rfl w⟩
  | fail e => exact fun w => ⟨ended rfl w, ended rfl w⟩
  | call r rest ih =>
      intro w
      have here : CanEnd outside (.call r rest) w := canEnd_of_bout (ih _ _).2
      refine ⟨here, ?_⟩
      cases r with
      | writeCursor rule place =>
          rw [Prog.goOn]
          split
          · exact (ih _ _).1
          · exact here
      | _ => exact here

/-- Whatever state calls have come to, all of them can come to their ends. -/
theorem Turn.exists_over (s : System α) : ∃ t, Relation.ReflTransGen (Turn outside) s t ∧
    ∀ c ∈ t.calls, c.isOver = true := by
  obtain ⟨w, calls, tasks⟩ := s
  suffices h : ∀ w before, (∀ c ∈ before, c.isOver = true) →
      ∃ t, Relation.ReflTransGen (Turn outside) ⟨w, before ++ calls, tasks⟩ t ∧
        ∀ c ∈ t.calls, c.isOver = true from h w [] (by simp)
  induction calls with
  | nil => exact fun w before ended => ⟨_, .refl, by simpa using ended⟩
  | cons m calls ih =>
      intro w before ended
      obtain ⟨w', m', isOver, first⟩ := (canEnd m w).1 before calls tasks
      obtain ⟨t, rest, all⟩ := ih w' (before ++ [m']) (by
        intro c hc
        rcases List.mem_append.mp hc with hc | hc
        · exact ended c hc
        · exact List.mem_singleton.mp hc ▸ isOver)
      rw [List.append_assoc, List.singleton_append] at rest
      exact ⟨t, first.trans rest, all⟩

end System

/-! ## Calls for a rule -/

/-- Calls for a rule are about to begin, so many times as many as its pool has places; the cursor
is where it is, and neither store nor services will fail. -/
structure System.Opens (keeper : Keeper) (rule : Filed AssignmentRule) (start : Int) (times : Nat)
    (s : System (Option String)) : Prop where
  method : rule.record.method = .known .roundRobin
  calls : ∀ c ∈ s.calls, ∃ r context, keeper.Holds rule r ∧ c = Assignment.resolve r context
  count : s.calls.length = times * (s.world.poolOf rule.record).length
  staffed : s.world.poolOf rule.record ≠ []
  /-- A list is no longer than a column can count. -/
  countable : ((s.world.poolOf rule.record).length : Int) ≤ Column.greatest
  cursor : keeper.cursor? rule s.world = some start
  column : keeper.IsKept (s.world.poolOf rule.record).length start
  advances : s.world.Spares "store.advance_rotation"
  resolves : s.world.Spares "services.resolve_team_members"

/-- All calls for a rule have ended, each with the user at a position of the pool, every position
has been handed out so many times, and the cursor has come round.  From the greatest number that a
column holds it comes one place short. -/
structure System.ComesRound (keeper : Keeper) (rule : Filed AssignmentRule) (pool : List String)
    (start : Int) (times : Nat) (t : System (Option String)) : Prop where
  handed : ∃ positions : List Nat, t.calls = positions.map (fun p => .done pool[p]?) ∧
    ∀ p < pool.length, positions.count p = times
  cursor : ∃ last, keeper.cursor? rule t.world = some last ∧
    ((keeper = .table → start < Column.greatest) → last ≡ start [ZMOD pool.length]) ∧
    (keeper = .table → start = Column.greatest → 0 < times → last ≡ start - 1 [ZMOD pool.length])

/-! ## Bouts of a call -/

namespace Assignment

open Prog (ask)

/-- What is left of a call once it knows its place. -/
def settle (r : Filed AssignmentRule) (pool : List String) : Option Int → Prog (Option String)
  | some place => ask (.writeCursor r place) >>= fun _ => pure (userAt pool place)
  | none => ask (.turnCursor r pool.length) >>= fun place => pure (userAt pool place)

/-- What is left of a call once it has read its pool. -/
def takeTurn (r : Filed AssignmentRule) (pool : List String) : Prog (Option String) :=
  ask (.advanceRotation r.record.id pool.length) >>= settle r pool

theorem takeTurn_eq (r : Filed AssignmentRule) (pool : List String) :
    takeTurn r pool = do
      let place ← nextInTurn r pool.length
      return userAt pool place := by
  rw [nextInTurn, bind_assoc, takeTurn]
  refine congrArg _ (funext fun place => ?_)
  cases place with
  | none => rfl
  | some place => rw [bind_assoc]; rfl

theorem roundRobin_eq (r : Filed AssignmentRule) :
    roundRobin r = candidatePool r.record >>= fun pool =>
      if pool.isEmpty then pure none else takeTurn r pool := by
  refine congrArg _ (funext fun pool => ?_)
  rw [takeTurn_eq]

end Assignment

/-- How far a call for a rule is, and the place that it was given. -/
inductive Stage (keeper : Keeper) (rule : Filed AssignmentRule) (pool : List String) :
    Option Int → Prog (Option String) → Prop where
  | fresh {r : Filed AssignmentRule} (holds : keeper.Holds rule r) (context : Context) :
      Stage keeper rule pool none (Assignment.resolve r context)
  | read {r : Filed AssignmentRule} (holds : keeper.Holds rule r) :
      Stage keeper rule pool none (Assignment.takeTurn r pool)
  | turning {r : Filed AssignmentRule} (holds : keeper.Holds rule r) (held : keeper = .holders) :
      Stage keeper rule pool none (Assignment.settle r pool none)
  | writing (r : Filed AssignmentRule) (place : Int) (table : keeper = .table) :
      Stage keeper rule pool (some place) (Assignment.settle r pool (some place))
  | ended (place : Int) : Stage keeper rule pool (some place) (.done (Assignment.userAt pool place))

namespace Stage

variable {keeper : Keeper} {rule r : Filed AssignmentRule} {pool : List String} {cursor : Int}
  {w : World} {given : Option Int} {m : Prog (Option String)}

/-- What a bout makes of a call and the world: the call has its place before and after, or has
none before and after, or is given the next. -/
def Advances (keeper : Keeper) (rule : Filed AssignmentRule) (pool : List String) (cursor : Int)
    (given : Option Int) (m : Prog (Option String)) (w : World) : Prop :=
  (Stage keeper rule pool given m ∧ Rotates keeper rule pool cursor w) ∨
    given = none ∧ ∃ place, IsNext pool.length (keeper.reckoned cursor) place ∧
      Stage keeper rule pool (some place) m ∧ Rotates keeper rule pool place w

theorem advances_takeTurn (h : Rotates keeper rule pool cursor w) (holds : keeper.Holds rule r)
    (staffed : 0 < (pool.length : Int)) (countable : (pool.length : Int) ≤ Column.greatest) :
    Advances keeper rule pool cursor none ((Assignment.takeTurn r pool).bout w).1
      ((Assignment.takeTurn r pool).bout w).2 := by
  have id : r.record.id = rule.record.id := by rw [holds.record]; rfl
  rw [Assignment.takeTurn, id]
  by_cases stored : keeper = .holders
  · subst stored
    rw [Prog.bout_ask_bind (h.pass countable)]
    exact .inl ⟨.turning holds rfl, h⟩
  · obtain ⟨place, w', answered, next, moved, isMemory⟩ := h.advance staffed countable stored
    rw [Prog.bout_ask_bind answered]
    refine .inr ⟨rfl, place, next, ?_⟩
    show Stage _ _ _ _ (Prog.goOn (.call (.writeCursor r place) _) w').1 ∧
      Rotates _ _ _ _ (Prog.goOn (.call (.writeCursor r place) _) w').2
    rw [Prog.goOn, isMemory]
    by_cases memory : keeper = .memory
    · rw [decide_eq_true memory, if_pos rfl]
      exact ⟨.ended place, moved.writeBack r.slot (.inr rfl)⟩
    · have table : keeper = .table := by
        cases keeper <;> first | rfl | exact absurd rfl stored | exact absurd rfl memory
      rw [decide_eq_false memory, if_neg Bool.false_ne_true]
      exact ⟨.writing r place table, moved⟩

/-- A call begins with its turn, or reads the pool from the team first. -/
theorem resolve_cases (draws : w.poolOf rule.record = pool) (holds : keeper.Holds rule r)
    (method : rule.record.method = .known .roundRobin) (staffed : 0 < (pool.length : Int))
    (context : Context) :
    Assignment.resolve r context = Assignment.takeTurn r pool ∨
      ∃ team, w.services.teamMembers team = pool ∧
        Assignment.resolve r context = Prog.ask (.teamMembers team) >>= fun members =>
          if members.isEmpty then pure none else Assignment.takeTurn r members := by
  have same : Assignment.resolve r context = Assignment.roundRobin r := by
    have method : r.record.method = .known .roundRobin := by rw [holds.record]; exact method
    rw [Assignment.resolve, method]
  have users : r.record.userIds = rule.record.userIds := by rw [holds.record]; rfl
  have team : r.record.teamId = rule.record.teamId := by rw [holds.record]; rfl
  have filled : pool.isEmpty = false := by
    cases pool with
    | nil => cases staffed
    | cons u us => rfl
  have asked : Assignment.candidatePool r.record = Assignment.candidatePool rule.record := by
    rw [Assignment.candidatePool, users, team]
    rfl
  rw [same, Assignment.roundRobin_eq, asked]
  rcases Assignment.candidatePool_cases rule.record w with known | ⟨team, _, _, members, asks⟩
  · rw [known, pure_bind, draws, filled, if_neg Bool.false_ne_true]
    exact .inl rfl
  · rw [asks]
    exact .inr ⟨team, members.symm.trans draws, rfl⟩

/-- Every bout of a call goes on as it should. -/
theorem bout (stage : Stage keeper rule pool given m) (h : Rotates keeper rule pool cursor w)
    (method : rule.record.method = .known .roundRobin) (staffed : 0 < (pool.length : Int))
    (countable : (pool.length : Int) ≤ Column.greatest) :
    Advances keeper rule pool cursor given (m.bout w).1 (m.bout w).2 := by
  cases stage with
  | fresh holds context =>
      rcases resolve_cases h.draws holds method staffed context with same | ⟨team, members, same⟩
      · rw [same]
        exact advances_takeTurn h holds staffed countable
      · have answered : w.answer (.teamMembers team) = (.ok pool, w) := by
          rw [World.answer_of_spared rfl h.resolves rfl rfl, ← members]
          rfl
        have filled : pool.isEmpty = false := by
          rw [← Bool.not_eq_true, List.isEmpty_iff]
          rintro rfl
          cases staffed
        rw [same, Prog.bout_ask_bind answered, filled, if_neg Bool.false_ne_true]
        exact .inl ⟨.read holds, h⟩
  | read holds => exact advances_takeTurn h holds staffed countable
  | @turning r holds held =>
      subst held
      obtain ⟨place, w', answered, next, moved⟩ := h.turn staffed countable holds
      rw [Assignment.settle, Prog.bout_ask_bind answered]
      exact .inr ⟨rfl, place, next, .ended place, moved⟩
  | writing r place table =>
      exact .inl ⟨.ended place, h.writeBack r.slot (.inl table)⟩
  | ended place => exact .inl ⟨.ended place, h⟩

/-- A call that is over has been given its place. -/
theorem ended_of_isOver (stage : Stage keeper rule pool given m)
    (draws : w.poolOf rule.record = pool) (method : rule.record.method = .known .roundRobin)
    (staffed : 0 < (pool.length : Int)) (isOver : m.isOver = true) :
    ∃ place, given = some place ∧ m = .done (Assignment.userAt pool place) := by
  cases stage with
  | fresh holds context =>
      rcases resolve_cases draws holds method staffed context with same | ⟨team, members, same⟩
      · rw [same] at isOver
        cases isOver
      · rw [same] at isOver
        cases isOver
  | ended place => exact ⟨place, rfl, rfl⟩
  | _ => cases isOver

end Stage

/-! ## Going round -/

/-- So many positions of a pool in turn, from the one after a place on. -/
def positionsFrom (size start : Int) (count : Nat) : List Int :=
  (List.range count).map fun i : Nat => (start + 1 + i) % size

theorem positionsFrom_succ (size start : Int) (count : Nat) :
    positionsFrom size start (count + 1)
      = positionsFrom size start count ++ [(start + 1 + count) % size] := by
  rw [positionsFrom, List.range_succ, List.map_append, List.map_singleton, positionsFrom]

theorem positionsFrom_add (size start : Int) (count more : Nat) :
    positionsFrom size start (count + more)
      = positionsFrom size start count ++ positionsFrom size (start + count) more := by
  rw [positionsFrom, List.range_add, List.map_append, List.map_map, positionsFrom, positionsFrom]
  refine congrArg _ (List.map_congr_left fun i _ => ?_)
  simp only [Function.comp_apply, Nat.cast_add]
  congr 1
  omega

/-- Once round every position comes once. -/
theorem count_positionsFrom_one {size : Nat} {position : Int} (nonneg : 0 ≤ position)
    (below : position < size) (start : Int) :
    (positionsFrom size start size).count position = 1 := by
  have positive : (0 : Int) < size := lt_of_le_of_lt nonneg below
  have apart : (positionsFrom size start size).Nodup := by
    refine List.Nodup.map_on ?_ List.nodup_range
    intro i hi j hj same
    have same : (start + 1 + i : Int) ≡ start + 1 + j [ZMOD size] := same
    have same := Int.ModEq.add_left_cancel' _ same
    rw [List.mem_range] at hi hj
    have := same.eq
    rw [Int.emod_eq_of_lt (by omega) (by omega), Int.emod_eq_of_lt (by omega) (by omega)] at this
    exact Int.ofNat.inj this
  refine List.count_eq_one_of_mem apart (List.mem_map.mpr ?_)
  have nonneg' := Int.emod_nonneg (position - (start + 1)) positive.ne'
  refine ⟨((position - (start + 1)) % size).toNat, ?_, ?_⟩
  · rw [List.mem_range]
    have := Int.emod_lt_of_pos (position - (start + 1)) positive
    omega
  · rw [Int.toNat_of_nonneg nonneg', Int.add_emod_emod, add_sub_cancel,
      Int.emod_eq_of_lt nonneg below]

/-- So many times round every position comes as often. -/
theorem count_positionsFrom {size : Nat} {position : Int} (nonneg : 0 ≤ position)
    (below : position < size) (start : Int) (times : Nat) :
    (positionsFrom size start (times * size)).count position = times := by
  induction times with
  | zero => simp [positionsFrom]
  | succ times ih =>
      rw [Nat.succ_mul, positionsFrom_add, List.count_append, ih,
        count_positionsFrom_one nonneg below]

/-- The places that were given are those next after the start, in any order, and the cursor is as
far on. -/
structure GoesRound (size start cursor : Int) (places : List Int) : Prop where
  cursor : cursor ≡ start + places.length [ZMOD size]
  inside : ∀ place ∈ places, -size ≤ place ∧ place < size
  places : (places.map (· % size)).Perm (positionsFrom size start places.length)

namespace GoesRound

variable {size start cursor place : Int} {before after places : List Int}

theorem none_given : GoesRound size start start [] :=
  ⟨by rw [List.length_nil, Nat.cast_zero, add_zero], by simp, .refl _⟩

theorem give (h : GoesRound size start cursor (before ++ after)) (next : IsNext size cursor place) :
    GoesRound size start place (before ++ place :: after) := by
  have far : place ≡ start + 1 + (before ++ after).length [ZMOD size] := by
    have := next.next.trans (h.cursor.add_right 1)
    rwa [add_right_comm] at this
  have length : (before ++ place :: after).length = (before ++ after).length + 1 := by
    simp only [List.length_append, List.length_cons]
    omega
  refine ⟨?_, forall_mem_middle.mpr ⟨⟨next.least, next.below⟩, h.inside⟩, ?_⟩
  · rw [length]
    push_cast
    rw [← add_assoc, add_right_comm]
    exact far
  · rw [length, positionsFrom_succ, ← far.eq]
    have first : ((before ++ place :: after).map (· % size)).Perm
        (place % size :: (before ++ after).map (· % size)) := List.perm_middle.map _
    exact first.trans ((h.places.cons _).trans (List.perm_append_singleton _ _).symm)

/-- After so many times round every position was given as often. -/
theorem count {size times : Nat} (h : GoesRound size start cursor places)
    (length : places.length = times * size) {position : Nat} (below : position < size) :
    (places.map fun place => (place % (size : Int)).toNat).count position = times := by
  have same : (places.map fun place => (place % (size : Int)).toNat).count position
      = (places.map (· % (size : Int))).count (position : Int) := by
    rw [List.count, List.count, List.countP_map, List.countP_map]
    refine List.countP_congr fun place _ => ?_
    have nonneg := Int.emod_nonneg place (b := size) (by omega)
    simp only [Function.comp_apply, beq_iff_eq]
    omega
  rw [same, h.places.count_eq, length]
  exact count_positionsFrom (by omega) (by omega) start times

/-- After so many times round the cursor is where it was. -/
theorem cursor_round {size times : Nat} (h : GoesRound size start cursor places)
    (length : places.length = times * size) : cursor ≡ start [ZMOD size] := by
  have round := h.cursor
  rw [length] at round
  refine round.trans ?_
  push_cast
  exact Int.modEq_iff_dvd.mpr ⟨-times, by rw [mul_neg, mul_comm (size : Int)]; omega⟩

end GoesRound

/-! ## The rota -/

/-- Calls for a rule are under way, with the places that they were given. -/
structure OnRota (keeper : Keeper) (rule : Filed AssignmentRule) (pool : List String) (start : Int)
    (s : System (Option String)) (calls : List (Option Int × Prog (Option String))) : Prop where
  each : s.calls = calls.map Prod.snd
  stages : ∀ x ∈ calls, Stage keeper rule pool x.1 x.2
  turns : ∃ cursor, Rotates keeper rule pool cursor s.world ∧
    GoesRound pool.length (keeper.reckoned start) (keeper.reckoned cursor)
      (calls.filterMap Prod.fst) ∧
    (calls.filterMap Prod.fst = [] ∧ cursor = start ∨ (keeper = .table → cursor < Column.greatest))

namespace OnRota

variable {keeper : Keeper} {rule : Filed AssignmentRule} {pool : List String} {start : Int}
  {s t : System (Option String)} {calls : List (Option Int × Prog (Option String))}

/-- Whoever takes a turn, the calls stay on the rota. -/
theorem turn (h : OnRota keeper rule pool start s calls) (move : System.Turn World.Undisturbed s t)
    (method : rule.record.method = .known .roundRobin) (staffed : 0 < (pool.length : Int))
    (countable : (pool.length : Int) ≤ Column.greatest) :
    ∃ calls', OnRota keeper rule pool start t calls' ∧ calls'.length = calls.length := by
  obtain ⟨hcalls, stages, cursor, rotates, round, from_⟩ := h
  cases move with
  | bout w before after m tasks =>
      obtain ⟨as, given, bs, rfl, rfl, rfl⟩ := System.split_labelled hcalls
      obtain ⟨stage, others⟩ := forall_mem_middle.mp stages
      rw [List.filterMap_append, List.filterMap_cons] at round from_
      rcases stage.bout rotates method staffed countable with
        ⟨goesOn, still⟩ | ⟨rfl, place, next, goesOn, moved⟩
      · refine ⟨as ++ (given, (m.bout w).1) :: bs, ⟨by simp, forall_mem_middle.mpr ⟨goesOn, others⟩,
          cursor, still, ?_, ?_⟩, by simp⟩
        · rw [List.filterMap_append, List.filterMap_cons]
          exact round
        · rw [List.filterMap_append, List.filterMap_cons]
          exact from_
      · have below : keeper = .table → place < Column.greatest := fun _ =>
          lt_of_lt_of_le next.below countable
        refine ⟨as ++ (some place, (m.bout w).1) :: bs,
          ⟨by simp, forall_mem_middle.mpr ⟨goesOn, others⟩, place, moved, ?_, .inr below⟩, by simp⟩
        rw [List.filterMap_append, List.filterMap_cons, Keeper.reckoned_of_below below]
        exact round.give next
  | change w w' calls tasks allowed =>
      exact ⟨_, ⟨hcalls, stages, cursor, rotates.undisturbed allowed, round, from_⟩, rfl⟩

theorem of_opens {times : Nat} (h : s.Opens keeper rule start times) :
    ∃ calls, OnRota keeper rule (s.world.poolOf rule.record) start s calls ∧
      calls.length = s.calls.length := by
  have none_ : (s.calls.map fun c => ((none : Option Int), c)).filterMap Prod.fst = [] := by
    simp
  refine ⟨s.calls.map fun c => (none, c), ⟨by simp [Function.comp_def], ?_, start,
    ⟨h.advances, h.resolves, rfl, h.cursor, h.column⟩, ?_, .inl ⟨none_, rfl⟩⟩, by simp⟩
  · intro x hx
    obtain ⟨c, hc, rfl⟩ := List.mem_map.mp hx
    obtain ⟨r, context, holds, rfl⟩ := h.calls c hc
    exact .fresh holds context
  · rw [none_]
    exact .none_given

theorem of_turns {calls : List (Option Int × Prog (Option String))}
    (h : OnRota keeper rule pool start s calls)
    (turns : Relation.ReflTransGen (System.Turn World.Undisturbed) s t)
    (method : rule.record.method = .known .roundRobin) (staffed : 0 < (pool.length : Int))
    (countable : (pool.length : Int) ≤ Column.greatest) :
    ∃ calls', OnRota keeper rule pool start t calls' ∧ calls'.length = calls.length := by
  induction turns with
  | refl => exact ⟨calls, h, rfl⟩
  | tail _ move ih =>
      obtain ⟨calls', onRota, length⟩ := ih
      obtain ⟨calls'', onRota, length'⟩ := onRota.turn move method staffed countable
      exact ⟨calls'', onRota, length'.trans length⟩

/-- Where every call is over, each has been given its place. -/
theorem exists_places (h : OnRota keeper rule pool start t calls)
    (method : rule.record.method = .known .roundRobin) (staffed : 0 < (pool.length : Int))
    (isOver : ∀ c ∈ t.calls, c.isOver = true) :
    ∃ places : List Int, calls.map Prod.fst = places.map some ∧
      t.calls = places.map fun place => .done (Assignment.userAt pool place) := by
  obtain ⟨each, stages, cursor, rotates, -⟩ := h
  rw [each] at isOver ⊢
  clear each
  induction calls with
  | nil => exact ⟨[], rfl, rfl⟩
  | cons x calls ih =>
      obtain ⟨places, given, ended⟩ := ih (fun c hc => isOver c (List.mem_cons_of_mem _ hc))
        fun y hy => stages y (List.mem_cons_of_mem x hy)
      obtain ⟨place, first, last⟩ := (stages x List.mem_cons_self).ended_of_isOver rotates.draws
        method staffed (isOver x.2 List.mem_cons_self)
      refine ⟨place :: places, ?_, ?_⟩
      · rw [List.map_cons, List.map_cons, given, first]
      · rw [List.map_cons, List.map_cons, ended, last]

end OnRota

/-- So many times as many calls as a pool has places take turns: they come round. -/
theorem comesRound {keeper : Keeper} {rule : Filed AssignmentRule} {start : Int}
    {times : Nat} {s t : System (Option String)} (opens : s.Opens keeper rule start times)
    (turns : Relation.ReflTransGen (System.Turn World.Undisturbed) s t)
    (isOver : ∀ c ∈ t.calls, c.isOver = true) :
    t.ComesRound keeper rule (s.world.poolOf rule.record) start times := by
  have staffed : 0 < ((s.world.poolOf rule.record).length : Int) :=
    Int.natCast_pos.mpr (List.length_pos_iff.mpr opens.staffed)
  obtain ⟨calls, onRota, length⟩ := OnRota.of_opens opens
  obtain ⟨calls', onRota, length'⟩ := onRota.of_turns turns opens.method staffed opens.countable
  obtain ⟨places, given, ended⟩ := onRota.exists_places opens.method staffed isOver
  obtain ⟨_, _, cursor, rotates, round, from_⟩ := onRota
  have same : calls'.filterMap Prod.fst = places := by
    have apart : calls'.filterMap Prod.fst = (calls'.map Prod.fst).filterMap id := by
      rw [List.filterMap_map]
      rfl
    rw [apart, given]
    simp
  have count : places.length = times * (s.world.poolOf rule.record).length := by
    have := congrArg List.length given
    rw [List.length_map, List.length_map] at this
    rw [← this, length', length, opens.count]
  rw [same] at round from_
  refine ⟨⟨places.map fun place => (place % ((s.world.poolOf rule.record).length : Int)).toNat,
    ?_, fun p below => round.count count below⟩, cursor, rotates.kept, ?_, ?_⟩
  · rw [ended, List.map_map]
    refine List.map_congr_left fun place hp => ?_
    obtain ⟨least, below⟩ := round.inside place hp
    rw [(Assignment.userAt_position least below).2]
    rfl
  · intro below
    have came := round.cursor_round count
    rw [Keeper.reckoned_of_below below] at came
    rcases from_ with ⟨_, rfl⟩ | below
    · exact .refl _
    · rwa [Keeper.reckoned_of_below below] at came
  · rintro table rfl positive
    have came := round.cursor_round count
    rcases from_ with ⟨rfl, _⟩ | below
    · have filled := Nat.mul_pos positive (List.length_pos_iff.mpr opens.staffed)
      rw [← count] at filled
      cases filled
    · rwa [Keeper.reckoned_of_below below, Keeper.reckoned, if_pos ⟨table, rfl⟩] at came

/-! ## Pools that change -/

/-- In a world each of the rules has a pool, of no more users than are exact in floating point. -/
def World.Staffs (rules : List AssignmentRule) (w : World) : Prop :=
  ∀ r ∈ rules, 0 < (w.poolOf r).length ∧ (w.poolOf r).length ≤ 2 ^ 53

/-- What answers have to be reckoned with where each of the rules has a pool: a team has members,
and a place is one of a pool of the size that was told. -/
def Staffed.expects (rules : List AssignmentRule) :
    (r : Request) → Except Failure r.Answer → Prop
  | .teamMembers team, .ok members => ∀ r ∈ rules, r.userIds = [] →
      Assignment.given? r.teamId = some team → 0 < members.length ∧ members.length ≤ 2 ^ 53
  | .advanceRotation _ size, .ok (some place) | .turnCursor _ size, .ok place =>
      0 < size → size ≤ 2 ^ 53 → -size ≤ place ∧ place < size
  | _, _ => True

/-- Anything may be asked, with the answers that are to be reckoned with. -/
def staffed (rules : List AssignmentRule) : Conduct Unit where
  may _ _ := True
  expects := Staffed.expects rules
  next _ _ _ := ()

namespace World

variable {rules : List AssignmentRule} {w : World}

/-- Nothing that is asked for changes a team. -/
theorem answer_teams (w : World) (r : Request) :
    (w.answer r).2.services.teams = w.services.teams := by
  cases inner : r.isOuter with
  | false =>
      refine w.answer_outer (fun v => v.services.teams) inner ?_ fun _ => rfl
      intro v v' same
      exact congrArg (fun outer => outer.1.teams) same
  | true =>
      refine answer_of_perform (P := fun v => v.services.teams = w.services.teams) (fun _ => rfl)
        fun faults => ?_
      cases r with
      | upsertTag name =>
          simp only [perform, serving, Services.upsertTag]
          split <;> rfl
      | createTask | createActivity | logEmail | endExchange | log => rfl
      | _ => cases inner

theorem poolOf_answer (w : World) (r : Request) (rule : AssignmentRule) :
    (w.answer r).2.poolOf rule = w.poolOf rule := by
  unfold poolOf Services.teamMembers
  rw [answer_teams]

theorem Staffs.answer (h : w.Staffs rules) (r : Request) : (w.answer r).2.Staffs rules := by
  intro rule mem
  rw [poolOf_answer]
  exact h rule mem

/-- A store gives places of a pool of the size that it is told. -/
theorem place_inside {s s' : Store} {id : Uid} {size place : Int}
    (moved : s.advanceRotation id size = .ok (some place, s')) (positive : 0 < size)
    (short : size ≤ 2 ^ 53) : -size ≤ place ∧ place < size := by
  cases s with
  | memory m =>
      obtain ⟨x, moved, same⟩ := ok_of_map_ok moved
      unfold MemoryStore.advanceRotation at moved
      split at moved
      · cases moved
        cases same
      · rename_i r found
        rw [if_neg positive.ne'] at moved
        cases moved
        cases same
        have next := MemoryStore.isNext_nextPlace positive r.record.cursor
        exact ⟨next.least, next.below⟩
  | relational t =>
      obtain ⟨x, moved, same⟩ := ok_of_map_ok moved
      obtain ⟨n, whole, moved⟩ := ok_of_bind_ok moved
      have countable : size ≤ Column.greatest := le_trans short (by decide)
      rw [Column.whole_of_le positive.le countable] at whole
      cases whole
      split at moved
      · cases moved
        cases same
      · rename_i row found
        rw [if_neg positive.ne'] at moved
        cases moved
        cases same
        exact RelationalStore.nextPlace_inside positive short row.cursor

/-- What is answered where each of the rules has a pool. -/
theorem Staffs.expected (h : w.Staffs rules) (r : Request) :
    (staffed rules).expects r (w.answer r).1 := by
  rcases w.answer_cases r with ⟨unaddressed, answered⟩ | ⟨f, faults, answered⟩ | ⟨faults, answered⟩
  · rw [answered]
    cases r with
    | emit event e => trivial
    | _ => cases unaddressed
  · rw [answered]
    cases r <;> trivial
  · rw [answered]
    cases r with
    | teamMembers team =>
        intro rule mem unnamed given
        have here := h rule mem
        rw [poolOf, unnamed] at here
        simpa [given] using here
    | advanceRotation id size =>
        simp only [perform]
        cases moved : w.store.advanceRotation id size with
        | error f => trivial
        | ok x =>
            obtain ⟨place, s⟩ := x
            cases place with
            | none => trivial
            | some place => exact place_inside moved
    | turnCursor rule size =>
        intro positive _
        have next := MemoryStore.isNext_nextPlace positive (World.cursorOf { w with faults } rule)
        exact ⟨next.least, next.below⟩
    | _ => trivial

end World

namespace Staffed

open Prog (leads_ask_bind)

variable {rules : List AssignmentRule} {r : Filed AssignmentRule} {pool : List String}

theorem leads_takeTurn (filled : 0 < pool.length) (short : pool.length ≤ 2 ^ 53) :
    (Assignment.takeTurn r pool).Leads (staffed rules) (fun x _ => x ≠ .ok none) () := by
  have positive : 0 < (pool.length : Int) := by omega
  have short : (pool.length : Int) ≤ 2 ^ 53 := by omega
  have found {place : Int} (inside : -(pool.length : Int) ≤ place ∧ place < pool.length) :
      Except.ok (Assignment.userAt pool place) ≠ (.ok none : Except Failure (Option String)) := by
    obtain ⟨below, same⟩ := Assignment.userAt_position inside.1 inside.2
    rw [same, List.getElem?_eq_getElem below]
    nofun
  refine leads_ask_bind trivial (fun _ _ => nofun) ?_
  intro place expected
  cases place with
  | some place =>
      exact leads_ask_bind trivial (fun _ _ => nofun) fun _ _ => found (expected positive short)
  | none =>
      exact leads_ask_bind trivial (fun _ _ => nofun) fun _ expected =>
        found (expected positive short)

/-- A call of a rule that has a pool does not end without a user. -/
theorem leads_resolve {w : World} (h : w.Staffs rules) (mem : r.record ∈ rules)
    (method : r.record.method = .known .roundRobin) (context : Context) :
    (Assignment.resolve r context).Leads (staffed rules) (fun x _ => x ≠ .ok none) () := by
  have here := h _ mem
  have filled {pool : List String} (staffed : 0 < pool.length) : pool.isEmpty = false := by
    simpa [List.isEmpty_iff] using List.length_pos_iff.mp staffed
  rw [Assignment.resolve_of_roundRobin method, Assignment.roundRobin_eq]
  rcases Assignment.candidatePool_cases r.record w with known | ⟨team, unnamed, given, _, asks⟩
  · rw [known, pure_bind, filled here.1, if_neg Bool.false_ne_true]
    exact leads_takeTurn here.1 here.2
  · rw [asks]
    refine leads_ask_bind trivial (fun _ _ => nofun) ?_
    intro members expected
    obtain ⟨staffed, short⟩ := expected r.record mem unnamed given
    rw [filled staffed, if_neg Bool.false_ne_true]
    exact leads_takeTurn staffed short

/-- Each of the rules has a pool, and no call comes to an end without a user. -/
def GoesOn (rules : List AssignmentRule) (s : System (Option String)) : Prop :=
  s.world.Staffs rules ∧ ∀ c ∈ s.calls, c.Leads (staffed rules) (fun x _ => x ≠ .ok none) ()

theorem GoesOn.step {settings : Settings} {s t : System (Option String)}
    (move : System.Step settings (fun _ w' => w'.Staffs rules) s t) (h : GoesOn rules s) :
    GoesOn rules t := by
  obtain ⟨staffs, leads⟩ := h
  cases move with
  | call w before after tasks r rest ready =>
      obtain ⟨here, others⟩ := forall_mem_middle.mp leads
      exact ⟨staffs.answer r, forall_mem_middle.mpr ⟨here.2 _ (staffs.expected r), others⟩⟩
  | task w calls before after work r rest ready => exact ⟨staffs.answer r, leads⟩
  | «begin» w calls tasks before after work queued => exact ⟨staffs, leads⟩
  | change w w' calls tasks allowed => exact ⟨allowed, leads⟩

end Staffed

/-- Calls for rules that have a pool each are about to begin. -/
structure System.IsStaffed (rules : List AssignmentRule) (s : System (Option String)) : Prop where
  calls : ∀ c ∈ s.calls, ∃ r context, r.record ∈ rules ∧
    r.record.method = .known .roundRobin ∧ c = Assignment.resolve r context
  staffs : s.world.Staffs rules

theorem System.IsStaffed.goesOn {rules : List AssignmentRule} {s : System (Option String)}
    (h : s.IsStaffed rules) : Staffed.GoesOn rules s := by
  refine ⟨h.staffs, fun c hc => ?_⟩
  obtain ⟨r, context, mem, method, rfl⟩ := h.calls c hc
  exact Staffed.leads_resolve h.staffs mem method context

/-- A rotation is fair and stays inside its pools.  However many times as many calls for a rule as
its pool has places take turns, they can go on to their ends, and then they have come round.  Where
rules always have a pool, of whatever size it may be by and by, no call ends without a user,
whatever else goes on: no place is outside its pool. -/
theorem rotation_fair (settings : Settings) :
    (∀ {keeper : Keeper} {rule : Filed AssignmentRule} {start : Int} {times : Nat}
      {s t : System (Option String)}, s.Opens keeper rule start times →
      Relation.ReflTransGen (System.Turn World.Undisturbed) s t →
      ((∀ c ∈ t.calls, c.isOver = true) →
        t.ComesRound keeper rule (s.world.poolOf rule.record) start times) ∧
      ∃ u, Relation.ReflTransGen (System.Turn World.Undisturbed) t u ∧
        ∀ c ∈ u.calls, c.isOver = true) ∧
    ∀ {rules : List AssignmentRule} {s t : System (Option String)}, s.IsStaffed rules →
      System.Reachable settings (fun _ w' => w'.Staffs rules) s t →
      ∀ c ∈ t.calls, c ≠ .done none := by
  refine ⟨fun opens turns => ⟨comesRound opens turns, System.Turn.exists_over _⟩, ?_⟩
  intro rules s t staffed reachable
  have goesOn := reachable.keeps staffed.goesOn fun _ _ => Staffed.GoesOn.step
  rintro c hc rfl
  exact goesOn.2 _ hc rfl

/-- A rule with two users in turn, of whom the first had the last turn. -/
def pairRule : Filed AssignmentRule where
  slot := some 0
  record := {
    id := ⟨1⟩
    entityType := "deal"
    method := .known .roundRobin
    userIds := ["ann", "bob"] }

/-- Two calls for the rule. -/
def pairCalls : System (Option String) where
  world := { store := .memory { rules := [pairRule] }, rules := [("pair", pairRule)] }
  calls := [Assignment.resolve pairRule newDeal, Assignment.resolve pairRule newDeal]
  tasks := []

theorem pairCalls_opens : pairCalls.Opens .memory pairRule 0 1 where
  method := rfl
  calls c hc := by
    simp only [pairCalls, List.mem_cons, List.not_mem_nil, or_false, or_self] at hc
    exact ⟨pairRule, newDeal, ⟨rfl, fun other => by cases other⟩, hc⟩
  count := rfl
  staffed := by decide
  countable := by decide
  cursor := rfl
  column kept := by cases kept
  advances := by simp [World.Spares, pairCalls]
  resolves := by simp [World.Spares, pairCalls]

theorem pairCalls_isStaffed : pairCalls.IsStaffed [pairRule.record] where
  calls c hc := by
    simp only [pairCalls, List.mem_cons, List.not_mem_nil, or_false, or_self] at hc
    exact ⟨pairRule, newDeal, List.mem_singleton_self _, rfl, hc⟩
  staffs r hr := by
    obtain rfl := List.mem_singleton.mp hr
    decide

/-- The second call has its turn first. -/
theorem pairCalls_fair :
    pairCalls.Opens .memory pairRule 0 1 ∧ pairCalls.IsStaffed [pairRule.record] ∧
      ∃ t, Relation.ReflTransGen (System.Turn World.Undisturbed) pairCalls t ∧
        t.calls = [.done (some "ann"), .done (some "bob")] ∧
        t.ComesRound .memory pairRule ["ann", "bob"] 0 1 ∧
        ∀ c ∈ pairCalls.calls, c ≠ .done none := by
  have waiting : Relation.ReflTransGen (System.Turn World.Undisturbed) pairCalls pairCalls := .refl
  have second := waiting.tail (.bout _ [_] [] (Assignment.resolve pairRule newDeal) [])
  have both := second.tail (.bout _ [] [_] (Assignment.resolve pairRule newDeal) [])
  refine ⟨pairCalls_opens, pairCalls_isStaffed, _, both, rfl, ?_, ?_⟩
  · exact ((rotation_fair {}).1 pairCalls_opens both).1 (by decide)
  · exact (rotation_fair {}).2 pairCalls_isStaffed .refl

end RecordFlow
