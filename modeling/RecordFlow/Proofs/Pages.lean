/-
# Pages — a workflow's executions, a page at a time

The rows of a workflow stand in one order, the newest start first, and every
page is cut from them: pages that follow one another put together are the front
of the rows, so none is lost between two pages and none is on both.  The total
is told by the rows of the page itself.  It is the number of all rows as long
as there is a row on the page; past the last row it is zero.
-/
import RecordFlow.Proofs.Tables

namespace RecordFlow

/-- Successive pieces of one size, put together, are the front of a list. -/
theorem take_pieces {α : Type} (xs : List α) (size count : Nat) :
    (List.range count).flatMap (fun i => (xs.drop (i * size)).take size)
      = xs.take (count * size) := by
  induction count with
  | zero => simp
  | succ count ih =>
      rw [List.range_succ, List.flatMap_append, ih, Nat.succ_mul, List.take_add,
        List.flatMap_singleton]

theorem Column.whole_natCast (n : Nat) :
    whole n = if (n : Int) ≤ greatest then .ok n else .error .wholeBeyondColumn := by
  have low : least ≤ (n : Int) := Int.le_trans (by decide : least ≤ 0) (Int.natCast_nonneg n)
  simp only [whole, low, true_and]

namespace ExecutionRow

/-- Whether a row is of an execution of a workflow, with a status if one is asked for. -/
def isOf (workflowId : Uid) (status : Option RunStatus) (r : ExecutionRow) : Bool :=
  r.workflowId = workflowId && status.all fun a => r.status = .ofOpen (.known a)

theorem newestFirst_perm (rs : List ExecutionRow) : (newestFirst rs).Perm rs :=
  List.mergeSort_perm _ _

theorem newestFirst_pairwise (rs : List ExecutionRow) :
    (newestFirst rs).Pairwise fun a b => b.startedAt.civil ≤ a.startedAt.civil := by
  refine (List.pairwise_mergeSort ?_ ?_ rs).imp fun newer => of_decide_eq_true newer
  · intro a b c hab hbc
    exact decide_eq_true (Nat.le_trans (of_decide_eq_true hbc) (of_decide_eq_true hab))
  · intro a b
    simpa using Nat.le_total b.startedAt.civil a.startedAt.civil

theorem id_toExecution {r : ExecutionRow} {e : Execution} (read : r.toExecution = .ok e) :
    e.id = r.id := by
  obtain ⟨kind, _, read⟩ := ok_of_bind_ok read
  obtain ⟨status, _, read⟩ := ok_of_bind_ok read
  obtain ⟨outcomes, _, read⟩ := ok_of_bind_ok read
  obtain rfl := Except.ok.inj read
  rfl

/-- Rows that can all be read are read with their identifiers. -/
theorem exists_mapM_toExecution {rs : List ExecutionRow}
    (readable : ∀ r ∈ rs, ∃ e, r.toExecution = .ok e) :
    ∃ es, rs.mapM toExecution = .ok es ∧ es.map Execution.id = rs.map ExecutionRow.id := by
  induction rs with
  | nil => exact ⟨[], rfl, rfl⟩
  | cons r rs ih =>
      obtain ⟨e, read⟩ := readable r List.mem_cons_self
      obtain ⟨es, reads, ids⟩ := ih fun q mem => readable q (List.mem_cons_of_mem _ mem)
      refine ⟨e :: es, ?_, ?_⟩
      · rw [List.mapM_cons, read, reads]
        rfl
      · rw [List.map_cons, List.map_cons, ids, id_toExecution read]

end ExecutionRow

namespace RelationalStore

open ExecutionRow (isOf)

/-- The rows of executions as their columns are meant: each can be read, and each has an
identifier of its own. -/
structure HasLedger (s : RelationalStore) : Prop where
  readable : ∀ r ∈ s.executions, ∃ e, r.toExecution = .ok e
  once : (s.executions.map ExecutionRow.id).Nodup

variable {s : RelationalStore}

theorem matching_perm (workflowId : Uid) (status : Option RunStatus) :
    (s.matching workflowId (status.map .known)).Perm
      (s.executions.filter (isOf workflowId status)) := by
  have picked : s.executions.filter (isOf workflowId status) = s.executions.filter fun r =>
      r.workflowId = workflowId && (status.map Open.known).all (r.status = .ofOpen ·) := by
    refine List.filter_congr fun r _ => ?_
    cases status <;> rfl
  rw [picked]
  exact ExecutionRow.newestFirst_perm _

theorem mem_matching {workflowId : Uid} {status : Option RunStatus} {r : ExecutionRow} :
    r ∈ s.matching workflowId (status.map .known) ↔
      r ∈ s.executions ∧ r.isOf workflowId status = true := by
  rw [(matching_perm workflowId status).mem_iff, List.mem_filter]

theorem page_eq {α : Type} (limit offset : Nat) (xs : List α) :
    page limit offset xs = (xs.drop offset).take limit := by
  rw [page, if_neg (by omega), Int.toNat_natCast, Int.toNat_natCast]

/-- What is told of a page: the identifiers on it, and the number of all rows unless there is none
on the page. -/
def pageOf (rows : List ExecutionRow) (limit offset : Nat) : List RecordId × Nat :=
  (((rows.drop offset).take limit).map ExecutionRow.id,
    if offset < rows.length then rows.length else 0)

theorem flatMap_pageOf (rows : List ExecutionRow) (limit count : Nat) :
    ((List.range count).map fun i => pageOf rows limit (i * limit)).flatMap Prod.fst
      = (rows.take (count * limit)).map ExecutionRow.id := by
  rw [← take_pieces, List.map_flatMap, List.flatMap_map]
  rfl

theorem read_page {rows : List ExecutionRow} (readable : ∀ r ∈ rows, ∃ e, r.toExecution = .ok e)
    {limit : Nat} (positive : 1 ≤ limit) (offset : Nat) :
    (do
      let found ← (page limit offset rows).mapM ExecutionRow.toExecution
      return (found.map Execution.id, if found.isEmpty then 0 else rows.length))
    = .ok (pageOf rows limit offset) := by
  have onPage : ∀ r ∈ (rows.drop offset).take limit, ∃ e, r.toExecution = .ok e := fun r mem =>
    readable r (List.mem_of_mem_drop (List.mem_of_mem_take mem))
  obtain ⟨found, reads, ids⟩ := ExecutionRow.exists_mapM_toExecution onPage
  have size : found.length = min limit (rows.length - offset) := by
    simpa using congrArg List.length ids
  have total : (if found.isEmpty then 0 else rows.length)
      = if offset < rows.length then rows.length else 0 := by
    by_cases there : offset < rows.length
    · have some : found ≠ [] := by
        rintro rfl
        simp only [List.length_nil] at size
        omega
      simp [there, some]
    · have none : found = [] := List.eq_nil_of_length_eq_zero (by omega)
      simp [there, none]
  rw [page_eq, reads, pageOf, ← ids, ← total]
  rfl

/-- A page within the bounds of a column is found, and any other refused. -/
theorem findByWorkflow_eq (h : s.HasLedger) (workflowId : Uid) (status : Option RunStatus)
    {limit : Nat} (positive : 1 ≤ limit) (offset : Nat) :
    s.findByWorkflow workflowId (status.map .known) limit offset =
      if (limit : Int) ≤ Column.greatest ∧ (offset : Int) ≤ Column.greatest then
        .ok (pageOf (s.matching workflowId (status.map .known)) limit offset)
      else .error .wholeBeyondColumn := by
  have readable : ∀ r ∈ s.matching workflowId (status.map .known), ∃ e, r.toExecution = .ok e :=
    fun r mem => h.readable r (mem_matching.mp mem).1
  have found := read_page readable positive offset
  rw [findByWorkflow, Column.whole_natCast, Column.whole_natCast]
  by_cases low : (limit : Int) ≤ Column.greatest
  · by_cases low' : (offset : Int) ≤ Column.greatest
    · rw [if_pos low, if_pos low', if_pos ⟨low, low'⟩]
      exact found
    · have beyond : ¬ ((limit : Int) ≤ Column.greatest ∧ (offset : Int) ≤ Column.greatest) :=
        fun both => low' both.2
      rw [if_pos low, if_neg low', if_neg beyond]
      rfl
  · have beyond : ¬ ((limit : Int) ≤ Column.greatest ∧ (offset : Int) ≤ Column.greatest) :=
      fun both => low both.1
    rw [if_neg low, if_neg beyond]
    rfl

/-- The pages of a workflow's executions are cut one after the other from one list of all matching
rows, the newest start first.  As many as it takes, put together, have every match just once; and
each that is not empty tells how many there are. -/
theorem executions_paged (h : s.HasLedger) (workflowId : Uid) (status : Option RunStatus) :
    ∃ rows : List ExecutionRow,
      rows.Perm (s.executions.filter (isOf workflowId status)) ∧
      rows.Pairwise (fun a b => b.startedAt.civil ≤ a.startedAt.civil) ∧
      (∀ limit offset : Nat, 1 ≤ limit →
        s.findByWorkflow workflowId (status.map .known) limit offset =
          if (limit : Int) ≤ Column.greatest ∧ (offset : Int) ≤ Column.greatest then
            .ok (((rows.drop offset).take limit).map ExecutionRow.id,
              if offset < rows.length then rows.length else 0)
          else .error .wholeBeyondColumn) ∧
      ∀ limit count : Nat, 1 ≤ limit → (limit : Int) ≤ Column.greatest →
        (∀ i < count, ((i * limit : Nat) : Int) ≤ Column.greatest) → rows.length ≤ count * limit →
        ∃ pages, (List.range count).mapM (fun i =>
            s.findByWorkflow workflowId (status.map .known) limit (i * limit : Nat)) = .ok pages ∧
          pages.flatMap Prod.fst = rows.map ExecutionRow.id ∧
          (pages.flatMap Prod.fst).Nodup ∧
          ∀ id, id ∈ pages.flatMap Prod.fst ↔
            ∃ r ∈ s.executions, r.isOf workflowId status = true ∧ r.id = id := by
  have perm := matching_perm (s := s) workflowId status
  refine ⟨s.matching workflowId (status.map .known), perm,
    ExecutionRow.newestFirst_pairwise _, ?page, ?pages⟩
  case page =>
    intro limit offset positive
    exact findByWorkflow_eq h workflowId status positive offset
  case pages =>
    intro limit count positive low each all
    have found : (List.range count).mapM (fun i =>
          s.findByWorkflow workflowId (status.map .known) limit (i * limit : Nat))
        = .ok ((List.range count).map fun i =>
          pageOf (s.matching workflowId (status.map .known)) limit (i * limit)) := by
      refine mapM_of_ok fun i mem => ?_
      rw [findByWorkflow_eq h workflowId status positive,
        if_pos ⟨low, each i (List.mem_range.mp mem)⟩]
    have ids := flatMap_pageOf (s.matching workflowId (status.map .known)) limit count
    rw [List.take_of_length_le all] at ids
    refine ⟨_, found, ids, ?_, ?_⟩
    · rw [ids, (perm.map ExecutionRow.id).nodup_iff]
      exact (List.filter_sublist.map ExecutionRow.id).nodup h.once
    · intro id
      rw [ids, List.mem_map]
      simp only [mem_matching, and_assoc]

/-- The row of a run that was completed, by its number and its start. -/
def greetingRow (number start : Nat) : ExecutionRow where
  id := .issued number
  workflowId := ⟨1⟩
  trigger := .ofOpen (.known .manual)
  triggeredBy := none
  entityType := "deals"
  entityId := "d1"
  status := .ofOpen (.known .completed)
  actionsExecuted := 0
  outcomes := .list []
  errorMessage := none
  startedAt := ⟨start, none⟩
  completedAt := none

/-- Three runs in the order of their starts. -/
def greetings : RelationalStore :=
  { executions := [greetingRow 0 10, greetingRow 1 20, greetingRow 2 30] }

/-- The runs on pages of two: past the last of them the page is empty, and its total zero. -/
theorem greetings_paged : greetings.HasLedger ∧
    greetings.findByWorkflow ⟨1⟩ (some (.known .completed)) 2 0
      = .ok ([.issued 2, .issued 1], 3) ∧
    greetings.findByWorkflow ⟨1⟩ (some (.known .completed)) 2 2 = .ok ([.issued 0], 3) ∧
    greetings.findByWorkflow ⟨1⟩ (some (.known .completed)) 2 4 = .ok ([], 0) ∧
    ∃ pages, (List.range 2).mapM (fun i =>
        greetings.findByWorkflow ⟨1⟩ (some (.known .completed)) 2 (i * 2 : Nat)) = .ok pages ∧
      pages.flatMap Prod.fst = [.issued 2, .issued 1, .issued 0] := by
  have ledger : greetings.HasLedger := by
    refine ⟨?_, by decide⟩
    simp only [greetings, List.forall_mem_cons, List.not_mem_nil, false_implies, implies_true,
      and_true]
    exact ⟨⟨_, rfl⟩, ⟨_, rfl⟩, ⟨_, rfl⟩⟩
  obtain ⟨rows, perm, sorted, paged, together⟩ := executions_paged ledger ⟨1⟩ (some .completed)
  replace perm : rows.Perm [greetingRow 2 30, greetingRow 1 20, greetingRow 0 10] :=
    perm.trans (List.reverse_perm _).symm
  have order : rows = [greetingRow 2 30, greetingRow 1 20, greetingRow 0 10] := by
    -- no two of the rows start at one time, so there is one order only
    refine perm.eq_of_pairwise ?_ sorted (by decide)
    intro a b here there newer older
    have listed := perm.mem_iff.mp here
    simp only [List.mem_cons, List.not_mem_nil, or_false] at listed there
    rcases listed with rfl | rfl | rfl <;> rcases there with rfl | rfl | rfl
    all_goals first | rfl | exact absurd newer (by decide) | exact absurd older (by decide)
  subst order
  refine ⟨ledger, ?_, ?_, ?_, ?_⟩
  · exact paged 2 0 (by decide)
  · exact paged 2 2 (by decide)
  · exact paged 2 4 (by decide)
  · obtain ⟨pages, found, ids, -⟩ := together 2 2 (by decide) (by decide) (by decide) (by decide)
    exact ⟨pages, found, ids⟩

end RelationalStore
end RecordFlow
