/-
# Statistics — how often a workflow has run, against the register

A run is counted once, after the store keeps its end and before the bus is told
of it.  Where nothing is refused that a run cannot do without, the store, the
bus and the runner, no run escapes the count: whenever no run of a workflow is in
progress its total has grown by the runs of it that were opened since, and the
time of its last run is that of one of these.  So says `no_run_lost`, however
runs of this and of other workflows interleave, for a store of either kind; in
the tables the total has to fit its column.

A run whose loop over the actions is raised by the runner is not counted, and in
a column that is full a run makes no difference: `runs_uncounted`.
-/
import RecordFlow.Proofs.Broadcast
import RecordFlow.Proofs.Cursors

namespace RecordFlow

/-! ## Statistics in a store -/

/-- The amount that is greater by one, as a store counts. -/
def Amount.next (memory : Bool) (n : Amount) : Amount := if memory then n.succ else Column.succ n

/-- A store counts up to a whole number that it can hold. -/
theorem Amount.next_iterate {memory : Bool} {n : Int} {k : Nat}
    (room : memory = true ∨ n + k ≤ Column.greatest) :
    (Amount.next memory)^[k] (.whole n) = .whole (n + k) := by
  induction k with
  | zero => simp
  | succ k ih =>
      rw [Function.iterate_succ_apply', ih (room.imp_right fun fits => by omega)]
      cases memory with
      | true => simp [next, succ, Int.add_assoc]
      | false =>
          have fits : n + k < Column.greatest := by
            have := room.resolve_left nofun
            omega
          simp [next, Column.succ, fits, Int.add_assoc]

example : Amount.next false (.whole Column.greatest) ≠ .whole (Column.greatest + 1) := by
  decide +kernel

/-- How often a workflow has run, and when it last did. -/
structure Statistics where
  total : Amount
  last : Option Instant
deriving DecidableEq

/-- Statistics after one more run. -/
def Statistics.counted (memory : Bool) (t : Instant) (x : Statistics) : Statistics where
  total := x.total.next memory
  last := some (t.kept memory)

def Workflow.statistics (w : Workflow) : Statistics := ⟨w.totalExecutions, w.lastExecutedAt⟩

def WorkflowRow.statistics (r : WorkflowRow) : Statistics := ⟨r.totalExecutions, r.lastExecutedAt⟩

/-- What is seen of a record under one key after the record under a key was changed. -/
theorem Keyed.map_find?_modify {κ α β : Type} [DecidableEq κ] {key : α → κ} {f : α → α}
    {view : α → β} {g : β → β} (keyed : ∀ a, key (f a) = key a)
    (shows : ∀ a, view (f a) = g (view a)) (k k' : κ) (xs : List α) :
    (Keyed.find? key k (Keyed.modify key k' f xs)).map view
      = if k' = k then ((Keyed.find? key k xs).map view).map g
        else (Keyed.find? key k xs).map view := by
  have same : ∀ a, key (if key a = k' then f a else a) = key a := fun a => by
    split
    · exact keyed a
    · rfl
  rw [Keyed.modify, Keyed.find?_map same]
  cases found : Keyed.find? key k xs with
  | none => simp
  | some x => by_cases here : k' = k <;> simp [here, (find?_mem found).2, Ne.symm, shows]

namespace Store

/-- The statistics of the workflow with an identifier. -/
def statistics (s : Store) (id : Uid) : Option Statistics :=
  match s.catalogue with
  | .inl ds => (Keyed.find? MemoryStore.workflowKey id ds).map fun d => d.record.statistics
  | .inr rows => (Keyed.find? WorkflowRow.id id rows).map WorkflowRow.statistics

/-- Under which slots and identifiers a store files its definitions. -/
def filing (s : Store) : List (Option Nat × Uid) :=
  match s.catalogue with
  | .inl ds => ds.map fun d => (d.slot, d.record.id)
  | .inr _ => []

/-- A slot is that of one identifier. -/
def SlotsApart (s : Store) : Prop :=
  ∀ x ∈ s.filing, ∀ y ∈ s.filing, x.1.isSome = true → y.1 = x.1 → y.2 = x.2

/-- How many runs of a workflow there are in the register. -/
def runsOf (s : Store) (id : Uid) : Nat := s.runs.countP (·.workflowId = id)

variable {s s' : Store}

/-- A run that is counted under an identifier. -/
theorem statistics_recordRun (s : Store) (id id' : Uid) (t : Instant) :
    (s.recordRun id t).statistics id'
      = if id = id' then (s.statistics id').map (Statistics.counted s.isMemory t)
        else s.statistics id' := by
  cases s with
  | memory m =>
      simp only [statistics, catalogue, recordRun, MemoryStore.recordRun]
      refine Keyed.map_find?_modify ?_ ?_ id' id m.workflows <;> exact fun _ => rfl
  | relational r =>
      simp only [statistics, catalogue, recordRun, RelationalStore.recordRun]
      refine Keyed.map_find?_modify ?_ ?_ id' id r.workflows <;> exact fun _ => rfl

theorem statistics_of_catalogue (same : s'.catalogue = s.catalogue) (id : Uid) :
    s'.statistics id = s.statistics id := by
  rw [statistics, same, statistics]

theorem filing_of_catalogue (same : s'.catalogue = s.catalogue) : s'.filing = s.filing := by
  rw [filing, same, filing]

theorem runsOf_of_outline (same : RunLine.outline s'.runs = RunLine.outline s.runs) (id : Uid) :
    s'.runsOf id = s.runsOf id := by
  have count (ls : List RunLine) : ls.countP (·.workflowId = id)
      = (RunLine.outline ls).countP (·.2 = id) := by
    rw [RunLine.outline, List.countP_map]
    rfl
  rw [runsOf, count, same, ← count, runsOf]

end Store

/-- A definition stays under its identifier when a run of it is counted. -/
theorem Filed.workflowKey_after (slot : Option Nat) (t : Instant) (d : Filed Workflow) :
    MemoryStore.workflowKey (d.after slot (·.recordRun t)) = MemoryStore.workflowKey d := by
  have edits : (d.after slot (·.recordRun t)).record = d.record ∨
      (d.after slot (·.recordRun t)).record = d.record.recordRun t := Filed.after_record d
  rcases edits with same | counted
  · exact congrArg Workflow.id same
  · exact (congrArg Workflow.id counted).trans rfl

namespace World

variable {w : World}

/-- A run that is counted leaves the definitions where they are filed. -/
theorem filing_countRun (w : World) (id : Uid) (t : Instant) :
    (w.countRun id t).store.filing = w.store.filing := by
  unfold countRun
  split
  · rename_i slot _
    simp only [editWorkflow, Store.editWorkflow]
    cases w.store with
    | relational r => rfl
    | memory m =>
        simp only [Store.filing, Store.catalogue, Filed.editAll_eq_map, List.map_map]
        exact List.map_congr_left fun d _ =>
          Prod.ext (Filed.after_slot d) (Filed.workflowKey_after _ t d)
  · cases w.store with
    | relational r => rfl
    | memory m =>
        simp only [withStore, Store.recordRun, MemoryStore.recordRun, Store.filing,
          Store.catalogue, Keyed.modify, List.map_map]
        refine List.map_congr_left fun d _ => ?_
        simp only [Function.comp]
        split <;> rfl

/-- A run of a workflow whose definition is shared is counted in its slot. -/
theorem statistics_countRun_filed {m : MemoryStore} {slot : Nat} {id : Uid}
    (memory : w.store = .memory m) (apart : w.store.SlotsApart)
    (filed : w.store.workflowSlot id = some slot) (id' : Uid) (t : Instant) :
    (w.countRun id t).store.statistics id'
      = if id = id' then (w.store.statistics id').map (Statistics.counted true t)
        else w.store.statistics id' := by
  have edited : (w.countRun id t).store = w.store.editWorkflow (some slot) (·.recordRun t) := by
    simp only [countRun, filed, editWorkflow]
  rw [edited]
  rw [memory] at apart filed ⊢
  obtain ⟨d, found, here⟩ := Option.bind_eq_some_iff.mp filed
  simp only [Store.statistics, Store.editWorkflow, Store.catalogue, Filed.editAll_eq_map,
    Keyed.find?_map (Filed.workflowKey_after (some slot) t), Option.map_map]
  cases found' : Keyed.find? MemoryStore.workflowKey id' m.workflows with
  | none => simp
  | some d' =>
      by_cases same : id = id'
      · subst same
        obtain rfl := Option.some.inj (found.symm.trans found')
        have counted : (d.after (some slot) (·.recordRun t)).record = d.record.recordRun t :=
          Filed.after_record_of_slot here rfl
        simp only [Option.map_some, Function.comp, if_true, counted]
        rfl
      · have elsewhere : d'.slot ≠ some slot := by
          intro shared
          obtain ⟨there, key⟩ := find?_mem found
          obtain ⟨there', key'⟩ := find?_mem found'
          refine same (key.symm.trans (Eq.trans ?_ key'))
          exact (apart _ (List.mem_map_of_mem there) _ (List.mem_map_of_mem there')
            (by rw [here]; rfl) (shared.trans here.symm)).symm
        have kept : d'.after (some slot) (·.recordRun t) = d' := if_neg elsewhere
        simp only [Option.map_some, Function.comp, if_neg same, kept]

/-- A run that is counted is counted for its workflow, and for no other. -/
theorem statistics_countRun (apart : w.store.SlotsApart) (id id' : Uid) (t : Instant) :
    (w.countRun id t).store.statistics id'
      = if id = id' then (w.store.statistics id').map (Statistics.counted w.store.isMemory t)
        else w.store.statistics id' := by
  cases filed : w.store.workflowSlot id with
  | some slot =>
      cases memory : w.store with
      | relational r =>
          rw [memory] at filed
          cases filed
      | memory m =>
          have shared := statistics_countRun_filed memory apart filed id' t
          rwa [memory] at shared
  | none =>
      have alone : (w.countRun id t).store = w.store.recordRun id t := by
        simp only [countRun, filed, withStore]
      rw [alone, Store.statistics_recordRun]

/-- What may change from outside: nothing of the runs, nor of the statistics of one workflow, which
is not registered again, and definitions stay apart. -/
structure AmidRuns (id : Uid) (w w' : World) : Prop where
  table : w'.store.table = w.store.table
  issued : w.issued ≤ w'.issued
  statistics : w'.store.statistics id = w.store.statistics id
  apart : w.store.SlotsApart → w'.store.SlotsApart

end World

/-! ## The tie -/

namespace Course

/-- The workflow whose run a piece of work has. -/
def of? (p : Course) : Option Uid := p.shown?.map Execution.workflowId

/-- The run that has been counted. -/
def counted? : Course → Option Execution
  | ended e true | told e => some e
  | _ => none

/-- Whether the run that a piece of work has is lost. -/
def isLost : Course → Bool
  | lost _ => true
  | _ => false

/-- Whether a piece of work has a run of a workflow. -/
def isOf (id : Uid) (p : Course) : Bool := p.of? = some id

/-- Whether a piece of work has a run of a workflow that has been counted. -/
def isCountedOf (id : Uid) (p : Course) : Bool :=
  p.counted?.map Execution.workflowId = some id

end Course

/-- Statistics are others after the runs that were counted in some phases. -/
structure Statistics.After (x : Statistics) (id : Uid) (memory : Bool) (x₀ : Statistics)
    (ps : List Course) : Prop where
  total : x.total = (Amount.next memory)^[ps.countP (Course.isCountedOf id)] x₀.total
  unmoved : ps.countP (Course.isCountedOf id) = 0 → x.last = x₀.last
  latest : 0 < ps.countP (Course.isCountedOf id) → ∃ p ∈ ps, ∃ e, p.counted? = some e ∧
    e.workflowId = id ∧ x.last = e.completedAt.map (Instant.kept memory)

namespace Statistics.After

variable {id : Uid} {memory : Bool} {x₀ x : Statistics} {front back ps : List Course}
  {p q : Course} {e : Execution}

/-- Work goes on that has not been counted meanwhile. -/
theorem pass (h : x.After id memory x₀ (front ++ p :: back)) (same : q.counted? = p.counted?) :
    x.After id memory x₀ (front ++ q :: back) := by
  have count : (front ++ q :: back).countP (Course.isCountedOf id)
      = (front ++ p :: back).countP (Course.isCountedOf id) :=
    countP_middle_congr (by simp only [Course.isCountedOf, same])
  refine ⟨count ▸ h.total, count ▸ h.unmoved, fun some => ?_⟩
  refine exists_mem_middle.mpr ((exists_mem_middle.mp (h.latest (count ▸ some))).imp_left ?_)
  exact fun ⟨e, counted, rest⟩ => ⟨e, same.trans counted, rest⟩

/-- A run is counted for its workflow. -/
theorem counted (h : x.After id memory x₀ (front ++ p :: back)) (before : p.counted? = none)
    (now : q.counted? = some e) (here : e.workflowId = id) {t : Instant}
    (completedAt : e.completedAt = some t) :
    (x.counted memory t).After id memory x₀ (front ++ q :: back) := by
  have count : (front ++ q :: back).countP (Course.isCountedOf id)
      = (front ++ p :: back).countP (Course.isCountedOf id) + 1 := by
    rw [countP_middle, countP_middle]
    simp [Course.isCountedOf, before, now, here]
  refine ⟨?_, fun none => ?_, fun _ => ?_⟩
  · rw [count, Function.iterate_succ_apply', ← h.total]
    rfl
  · rw [count] at none
    cases none
  · refine exists_mem_middle.mpr (.inl ⟨e, now, here, ?_⟩)
    rw [completedAt]
    rfl

/-- A run is counted for another workflow. -/
theorem other (h : x.After id memory x₀ (front ++ p :: back)) (before : p.counted? = none)
    (now : q.counted? = some e) (elsewhere : e.workflowId ≠ id) :
    x.After id memory x₀ (front ++ q :: back) := by
  have count : (front ++ q :: back).countP (Course.isCountedOf id)
      = (front ++ p :: back).countP (Course.isCountedOf id) :=
    countP_middle_congr (by simp [Course.isCountedOf, before, now, elsewhere])
  refine ⟨count ▸ h.total, count ▸ h.unmoved, fun some => ?_⟩
  refine exists_mem_middle.mpr ((exists_mem_middle.mp (h.latest (count ▸ some))).imp_left ?_)
  rintro ⟨e, counted, _⟩
  rw [before] at counted
  cases counted

/-- Work without a run begins. -/
theorem begun (h : x.After id memory x₀ ps) : x.After id memory x₀ (ps ++ [.silent]) := by
  have count : (ps ++ [Course.silent]).countP (Course.isCountedOf id)
      = ps.countP (Course.isCountedOf id) := List.countP_append
  refine ⟨count ▸ h.total, count ▸ h.unmoved, fun some => ?_⟩
  obtain ⟨p, hp, rest⟩ := h.latest (count ▸ some)
  exact ⟨p, List.mem_append_left _ hp, rest⟩

end Statistics.After

/-- The runs that are under way since a number was issued are followed, none of them is lost, each
is one more in the register, and each that has been counted is one more in the statistics. -/
structure Tallied (past : Nat) (memory : Bool) (id : Uid) (records : Nat) (x₀ : Statistics)
    (w : World) (ps : List Course) : Prop where
  followed : Followed past memory w ps
  apart : w.store.SlotsApart
  kept : ∀ p ∈ ps, p.isLost = false
  recorded : w.store.runsOf id = records + ps.countP (Course.isOf id)
  counted : ∃ x, w.store.statistics id = some x ∧ x.After id memory x₀ ps

namespace Tallied

variable {past : Nat} {memory : Bool} {id : Uid} {records : Nat} {x₀ : Statistics} {w w' : World}
  {front back ps : List Course} {p q : Course} {e : Execution} {r : Request}

/-- Nothing is counted, and nobody goes on. -/
theorem elsewhere (h : Tallied past memory id records x₀ w ps) (amid : w.AmidRuns id w') :
    Tallied past memory id records x₀ w' ps where
  followed := h.followed.elsewhere amid.table amid.issued
  apart := amid.apart h.apart
  kept := h.kept
  recorded := by
    rw [Store.runsOf_of_outline (congrArg RunLine.outline (Store.runs_of_table amid.table))]
    exact h.recorded
  counted := amid.statistics.symm ▸ h.counted

/-- Work that waited begins, without a run. -/
theorem begun (h : Tallied past memory id records x₀ w ps) (queue : List Background) :
    Tallied past memory id records x₀ { w with queue } (ps ++ [.silent]) where
  followed := h.followed.begun queue
  apart := h.apart
  kept p hp := by
    rcases List.mem_append.mp hp with hp | hp
    · exact h.kept p hp
    · obtain rfl := List.mem_singleton.mp hp
      rfl
  recorded := by
    rw [List.countP_append]
    exact h.recorded
  counted := by
    obtain ⟨x, stands, after⟩ := h.counted
    exact ⟨x, stands, after.begun⟩

/-- Work goes on with the same run, which is not counted meanwhile. -/
theorem quiet (h : Tallied past memory id records x₀ w (front ++ p :: back))
    (followed : Followed past memory w' (front ++ q :: back))
    (outline : RunLine.outline w'.store.runs = RunLine.outline w.store.runs)
    (catalogue : w'.store.catalogue = w.store.catalogue) (of : q.of? = p.of?)
    (same : q.counted? = p.counted?) (kept : q.isLost = false) :
    Tallied past memory id records x₀ w' (front ++ q :: back) where
  followed
  apart := by
    rw [Store.SlotsApart, Store.filing_of_catalogue catalogue]
    exact h.apart
  kept := forall_mem_middle.mpr ⟨kept, (forall_mem_middle.mp h.kept).2⟩
  recorded := by
    rw [Store.runsOf_of_outline outline, h.recorded]
    exact congrArg _ (countP_middle_congr (by simp only [Course.isOf, of])).symm
  counted := by
    obtain ⟨x, stands, after⟩ := h.counted
    exact ⟨x, (Store.statistics_of_catalogue catalogue id).trans stands, after.pass same⟩

/-- A run is opened, and is one more in the register. -/
theorem opened (h : Tallied past memory id records x₀ w (front ++ .silent :: back)) {e' : Execution}
    (result : (w.answer (.openExecution e)).1 = .ok e')
    (followed : Followed past memory (w.answer (.openExecution e)).2
      (front ++ .opened e' :: back)) :
    Tallied past memory id records x₀ (w.answer (.openExecution e)).2
      (front ++ .opened e' :: back) where
  followed
  apart := by
    have catalogue := congrArg Prod.snd (w.annals_openExecution e)
    rw [Store.SlotsApart, Store.filing_of_catalogue catalogue]
    exact h.apart
  kept := forall_mem_middle.mpr ⟨rfl, (forall_mem_middle.mp h.kept).2⟩
  recorded := by
    rcases World.runs_openExecution h.followed.fresh (e := e) with
      ⟨_, _, f, failed⟩ | ⟨l, _, of, runs, _, _⟩
    · rw [result] at failed
      cases failed
    · have same : e'.workflowId = l.workflowId := by
        rw [(World.openExecution_ok (Prod.ext result rfl)).1, of]
      have there := h.recorded
      rw [countP_middle] at there ⊢
      rw [Store.runsOf, runs, List.countP_append, ← Store.runsOf, there]
      simp [Course.isOf, Course.of?, Course.shown?, same, Nat.add_assoc]
  counted := by
    have catalogue := congrArg Prod.snd (w.annals_openExecution e)
    obtain ⟨x, stands, after⟩ := h.counted
    exact ⟨x, (Store.statistics_of_catalogue catalogue id).trans stands, after.pass rfl⟩

/-- A run is counted. -/
theorem count (h : Tallied past memory id records x₀ w (front ++ .ended e false :: back))
    {t : Instant} (completedAt : e.completedAt = some t)
    (followed : Followed past memory (w.answer (.recordRun e.workflowId t)).2
      (front ++ .ended e true :: back))
    (done : ∀ f, (w.answer (.recordRun e.workflowId t)).1 ≠ .error f) :
    Tallied past memory id records x₀ (w.answer (.recordRun e.workflowId t)).2
      (front ++ .ended e true :: back) := by
  rcases w.answer_cases (.recordRun e.workflowId t) with ⟨no, _⟩ | ⟨f, faults, ha⟩ | ⟨faults, ha⟩
  · cases no
  · exact absurd (congrArg Prod.fst ha) (done f)
  · have table := (w.table_answer (r := .recordRun e.workflowId t) rfl).1
    have recorded : (w.answer (.recordRun e.workflowId t)).2.store.runsOf id
        = records + (front ++ Course.ended e true :: back).countP (Course.isOf id) := by
      rw [Store.runsOf_of_outline (congrArg RunLine.outline (Store.runs_of_table table)),
        h.recorded]
      exact congrArg _ (countP_middle_congr rfl)
    have statistics := World.statistics_countRun (w := { w with faults }) h.apart e.workflowId id t
    have filing := World.filing_countRun { w with faults } e.workflowId t
    obtain ⟨x, stands, after⟩ := h.counted
    rw [ha] at followed recorded ⊢
    exact {
      followed
      apart := by
        rw [Store.SlotsApart]
        exact filing.symm ▸ h.apart
      kept := forall_mem_middle.mpr ⟨rfl, (forall_mem_middle.mp h.kept).2⟩
      recorded
      counted := by
        by_cases here : e.workflowId = id
        · rw [if_pos here, h.followed.kind] at statistics
          exact ⟨x.counted memory t, statistics.trans (congrArg _ stands),
            after.counted rfl rfl here completedAt⟩
        · rw [if_neg here] at statistics
          exact ⟨x, statistics.trans stands, after.other rfl rfl here⟩ }

/-- No answer to work that keeps to the code breaks the tie, unless it refuses what a run cannot do
without. -/
theorem answered (h : Tallied past memory id records x₀ w (front ++ p :: back))
    (allowed : (coursing true).may p r)
    (done : r.isVital = true → ∀ f, (w.answer r).1 ≠ .error f) :
    (coursing true).expects r (w.answer r).1 ∧
      Tallied past memory id records x₀ (w.answer r).2
        (front ++ (coursing true).next p r (w.answer r).1 :: back) := by
  have expected : (coursing true).expects r (w.answer r).1 :=
    World.expected (fun event e is => done (is ▸ rfl)) fun _ is => done (is ▸ rfl)
  refine ⟨expected, ?_⟩
  have followed := h.followed.answered allowed expected
  have outline := h.followed.outline_answered allowed
  have present := (forall_mem_middle.mp h.kept).1
  cases allowed with
  | plain plain rests =>
      rw [Course.next_of_plain plain] at followed ⊢
      exact h.quiet followed (outline (Request.isOpening_of_plain plain))
        (congrArg Prod.snd (w.annals_answer (Request.not_notable_of_plain plain))) rfl rfl present
  | @opens e running =>
      cases result : (w.answer (.openExecution e)).1 with
      | error f => exact absurd result (done rfl f)
      | ok e' =>
          rw [result] at followed
          exact h.opened result followed
  | @starts e =>
      cases result : (w.answer (.emit .started e)).1 with
      | error f => exact absurd result (done rfl f)
      | ok a =>
          rw [result] at followed
          exact h.quiet followed (outline rfl) (w.annals_emit _ _) rfl rfl rfl
  | @shows e e' follows running =>
      have same := congrArg Prod.snd (w.annals_answer (r := .publishExecution e') rfl)
      rw [Course.next_shown running] at followed ⊢
      exact h.quiet followed (outline rfl) same (congrArg some follows.workflowId) rfl rfl
  | @closes e e' follows shut =>
      have same := congrArg Prod.snd (w.annals_answer (r := .publishExecution e') rfl)
      rw [Course.next_closed shut] at followed ⊢
      exact h.quiet followed (outline rfl) same (congrArg some follows.workflowId) rfl rfl
  | @finishes e =>
      have same := congrArg Prod.snd (w.annals_answer (r := .finishExecution e) rfl)
      cases result : (w.answer (.finishExecution e)).1 with
      | error f => exact absurd result (done rfl f)
      | ok a =>
          rw [result] at followed
          exact h.quiet followed (outline rfl) same rfl rfl rfl
  | @counts e t completedAt =>
      cases result : (w.answer (.recordRun e.workflowId t)).1 with
      | error f => exact absurd result (done rfl f)
      | ok a =>
          rw [result] at followed
          exact h.count completedAt followed (done rfl)
  | @tells e counted sure =>
      obtain rfl := sure rfl
      cases result : (w.answer (.emit e.ending e)).1 with
      | error f => exact absurd result (done rfl f)
      | ok a =>
          rw [result] at followed
          exact h.quiet followed (outline rfl) (w.annals_emit _ _) rfl rfl rfl

/-- Where no run of the workflow is in progress, all of them have been counted. -/
theorem all_counted (h : Tallied past memory id records x₀ w ps)
    (gone : ∀ p ∈ ps, ∀ e, p.owed? = some e → e.workflowId ≠ id) :
    ps.countP (Course.isCountedOf id) = ps.countP (Course.isOf id) := by
  refine List.countP_congr fun p hp => ?_
  cases p with
  | silent => rfl
  | opened e | going e | closed e =>
      have elsewhere := gone _ hp e rfl
      simp [Course.isCountedOf, Course.counted?, Course.isOf, Course.of?, Course.shown?, elsewhere]
  | ended e counted =>
      have elsewhere := gone _ hp e rfl
      cases counted <;>
        simp [Course.isCountedOf, Course.counted?, Course.isOf, Course.of?, Course.shown?,
          elsewhere]
  | told e => rfl
  | lost e => cases h.kept _ hp

/-- A run that was counted has its line in the register, with the time at which it ended. -/
theorem exists_line (h : Tallied past memory id records x₀ w ps) (hp : p ∈ ps)
    (counted : p.counted? = some e) : e.runLine memory ∈ w.store.runs ∧
      (∃ n, e.id = .issued n ∧ past < n) ∧ ∃ t, (e.runLine memory).completedAt = some t := by
  have stands := h.followed.stands p hp
  have later := h.followed.later p hp e.id
  have shows (shut : e.IsShut) : ∃ t, (e.runLine memory).completedAt = some t := by
    obtain ⟨t, completedAt⟩ := shut.time
    exact ⟨t.kept memory, congrArg (Option.map _) completedAt⟩
  cases p with
  | ended e' counted' =>
      cases counted' with
      | false => cases counted
      | true =>
          obtain rfl := Option.some.inj counted
          exact ⟨stands.2, later rfl, shows stands.1⟩
  | told e' =>
      obtain rfl := Option.some.inj counted
      exact ⟨stands.2, later rfl, shows stands.1⟩
  | _ => cases counted

end Tallied

/-! ## Systems -/

namespace System

/-- No run of a workflow is in progress. -/
def Rests (s : System Unit) (id : Uid) : Prop :=
  ∀ l ∈ s.world.store.runs, l.workflowId = id → ¬ s.Pursues l.id

variable {settings : Settings} {start s : System Unit} {id : Uid} {x₀ : Statistics}

theorem IsRested.tallied (h : start.IsRested settings) (apart : start.world.store.SlotsApart)
    (stored : start.world.store.statistics id = some x₀) (k : Nat) :
    Tallied start.world.issued start.world.store.isMemory id (start.world.store.runsOf id) x₀
      start.world (List.replicate k .silent) where
  followed := h.followed k
  apart
  kept p hp := by
    obtain rfl := List.eq_of_mem_replicate hp
    rfl
  recorded := by
    rw [List.countP_replicate]
    rfl
  counted := by
    have none : (List.replicate k Course.silent).countP (Course.isCountedOf id) = 0 :=
      List.countP_replicate
    exact ⟨x₀, stored, none ▸ rfl, fun _ => rfl, fun some => absurd none some.ne'⟩

theorem IsRested.attends (h : start.IsRested settings) (apart : start.world.store.SlotsApart)
    (stored : start.world.store.statistics id = some x₀)
    (reaches : ReachesWithout (Refuses Request.isVital fun _ => True) settings (World.AmidRuns id)
      start s) :
    Attended (coursing true) Course.isEnd (fun _ _ => True) (Tallied start.world.issued
      start.world.store.isMemory id (start.world.store.runsOf id) x₀) s := by
  refine Attended.of_reachesWithout ?_ ?_ (fun _ _ _ amid tied => tied.elsewhere amid) reaches
    (h.attended (h.tallied apart stored _))
  · intro w front p back r rest tied leads done
    exact tied.answered leads.1 fun vital => done vital trivial
  · intro w ps before work after tied queued
    exact ⟨.silent, Course.leads_work settings work, tied.begun _⟩

/-- However runs interleave, with a store of either kind, where the store, the bus and the runner
refuse nothing that a run cannot do without: whenever no run of a workflow is in progress that is
stored and not registered again, its total has grown by the number of its runs that were opened
since, in so far as a column can hold it; and if there is one, the time of its last run is that at
which one of these ended. -/
theorem no_run_lost {n : Int} {last : Option Instant} (rested : start.IsRested settings)
    (apart : start.world.store.SlotsApart)
    (stored : start.world.store.statistics id = some ⟨.whole n, last⟩)
    (reaches : ReachesWithout (Refuses Request.isVital fun _ => True) settings (World.AmidRuns id)
      start s)
    (rests : s.Rests id) :
    ∃ k x, s.world.store.runsOf id = start.world.store.runsOf id + k ∧
      s.world.store.statistics id = some x ∧
      (start.world.store.isMemory = true ∨ n + k ≤ Column.greatest → x.total = .whole (n + k)) ∧
      (k = 0 → x.last = last) ∧
      (0 < k → ∃ l ∈ s.world.store.runs, l.workflowId = id ∧
        (∃ m, l.id = .issued m ∧ start.world.issued < m) ∧
        ∃ t, l.completedAt = some t ∧ x.last = some t) := by
  obtain ⟨ps, tallied, _, programs⟩ := (rested.attends apart stored reaches).programs
  have gone : ∀ p ∈ ps, ∀ e, p.owed? = some e → e.workflowId ≠ id := by
    intro p hp e owed same
    obtain ⟨m, hm, leads⟩ := programs p hp
    obtain ⟨l, hl, sameId, of⟩ := (tallied.followed.stands p hp).line (Course.shown?_of_owed? owed)
    exact rests l hl (of.trans same) ⟨m, hm, sameId ▸ Course.pursues leads owed⟩
  have all := tallied.all_counted gone
  obtain ⟨x, stands, after⟩ := tallied.counted
  refine ⟨ps.countP (Course.isOf id), x, tallied.recorded, stands, ?_, all ▸ after.unmoved, ?_⟩
  · intro room
    rw [after.total, all, Amount.next_iterate room]
  · intro some
    obtain ⟨p, hp, e, counted, here, latest⟩ := after.latest (all ▸ some)
    obtain ⟨line, later, t, completedAt⟩ := tallied.exists_line hp counted
    exact ⟨_, line, here, later, t, completedAt, latest.trans completedAt⟩

theorem greetedAloud_slotsApart {workflow : Filed Workflow} {faults : List Fault} :
    (greetedAloud workflow faults).world.store.SlotsApart := by
  intro x hx y hy _ _
  obtain rfl := List.mem_singleton.mp hx
  obtain rfl := List.mem_singleton.mp hy
  rfl

/-- The greeting has been run by hand, and its run has been counted. -/
theorem greetedAloud_counted : ∃ s, ReachesWithout (Refuses Request.isVital fun _ => True) {}
      (World.AmidRuns ⟨3⟩) (greetedAloud greeting []) s ∧ s.Rests ⟨3⟩ ∧
    s.world.store.runsOf ⟨3⟩ = 1 ∧ ∃ x, s.world.store.statistics ⟨3⟩ = some x ∧
      x.total = .whole 1 ∧ ∃ t, x.last = some t := by
  have reaches : ReachesWithout (Refuses Request.isVital fun _ => True) {} (World.AmidRuns ⟨3⟩)
      (greetedAloud greeting []) (heardOut greeting []) :=
    ReachesWithout.runCall [] [] .refl (by decide +kernel) (greetsByHand_isFree _)
  have rests : (heardOut greeting []).Rests ⟨3⟩ := fun _ _ _ => heardOut_over _
  have once : (heardOut greeting []).world.store.runsOf ⟨3⟩ = 1 := by decide +kernel
  obtain ⟨k, x, records, stands, total, _, latest⟩ :=
    no_run_lost greetedAloud_isRested greetedAloud_slotsApart (n := 0) rfl reaches rests
  obtain rfl : k = 1 := by
    have none : (greetedAloud greeting []).world.store.runsOf ⟨3⟩ = 0 := rfl
    omega
  obtain ⟨_, _, _, _, t, _, last⟩ := latest Nat.one_pos
  exact ⟨_, reaches, rests, once, x, stands, total (.inl rfl), t, last⟩

/-- The greeting, with something to be done. -/
def busyGreeting : Filed Workflow := Store.copy { greeting.record with
  actions := [{ id := ⟨1⟩, kind := .known .waitDelay, position := .whole 1 }] }

/-- The runner cannot be entered. -/
def crash : Fault := { site := "runner.execute", failure := .reported "RuntimeError" "crashed" }

/-- The greeting, run as often as a column can count. -/
def wornGreeting : Workflow := { greeting.record with totalExecutions := .whole Column.greatest }

/-- Over tables, it is to be run by hand twice more. -/
def greetedOverTables : System Unit where
  world := { store := ((Store.relational {}).addWorkflow (Store.copy wornGreeting)).2 }
  calls := [greetsByHand.program {}, greetsByHand.program {}]
  tasks := []

theorem greetedOverTables_isRested : greetedOverTables.IsRested {} := by
  have none : greetedOverTables.world.store.runs = [] :=
    List.eq_nil_of_length_eq_zero (by decide +kernel)
  refine ⟨fun c hc => ⟨greetsByHand, by simpa [greetedOverTables] using hc⟩, rfl, ?_, ?_⟩
  · rw [none]
    exact List.nodup_nil
  · rw [none]
    exact List.forall_mem_nil _

/-- The two runs are let go to their ends, one after the other. -/
def wornOut : System Unit :=
  let first := (greetsByHand.program {}).run greetedOverTables.world
  let second := (greetsByHand.program {}).run first.2
  ⟨second.2, [Prog.ofExcept first.1, Prog.ofExcept second.1], []⟩

theorem wornOut_over (id : RecordId) : ¬ wornOut.Pursues id := by
  rintro ⟨m, hm, pursues⟩
  rcases List.mem_cons.mp hm with rfl | hm
  · exact Prog.not_pursues_ofExcept _ pursues
  · obtain rfl := List.mem_singleton.mp hm
    exact Prog.not_pursues_ofExcept _ pursues

/-- Neither the store nor the bus refuses anything, and there are runs that have not been counted:
one that has ended as failed, as the runner was not entered; and one that made no difference to a
total beyond the greatest whole number that a column can hold. -/
theorem runs_uncounted :
    ((greetedAloud busyGreeting [crash]).IsRested {} ∧
      (greetedAloud busyGreeting [crash]).world.store.statistics ⟨3⟩ = some ⟨.whole 0, none⟩ ∧
      (greetedAloud busyGreeting [crash]).world.store.runsOf ⟨3⟩ = 0 ∧
      ∃ s, ReachesWithout (Refuses Request.isStaple fun _ => True) {} (World.AmidRuns ⟨3⟩)
          (greetedAloud busyGreeting [crash]) s ∧ s.Rests ⟨3⟩ ∧
        s.world.store.runsOf ⟨3⟩ = 1 ∧
        s.world.store.statusOf (.issued 1) = some (.ofOpen (.known .failed)) ∧
        s.world.store.statistics ⟨3⟩ = some ⟨.whole 0, none⟩) ∧
    greetedOverTables.IsRested {} ∧
      greetedOverTables.world.store.statistics ⟨3⟩ = some ⟨.whole Column.greatest, none⟩ ∧
      greetedOverTables.world.store.runsOf ⟨3⟩ = 0 ∧
      ∃ s, ReachesWithout (Refuses Request.isVital fun _ => True) {} (World.AmidRuns ⟨3⟩)
          greetedOverTables s ∧ s.Rests ⟨3⟩ ∧
        s.world.store.runsOf ⟨3⟩ = 2 ∧
        (s.world.store.statistics ⟨3⟩).map Statistics.total
          = some (Column.succ (.whole Column.greatest)) := by
  have raised : ReachesWithout (Refuses Request.isStaple fun _ => True) {} (World.AmidRuns ⟨3⟩)
      (greetedAloud busyGreeting [crash]) (heardOut busyGreeting [crash]) :=
    .runCall [] [] .refl (by decide +kernel) (greetsByHand_isFree _)
  have worn : ReachesWithout (Refuses Request.isVital fun _ => True) {} (World.AmidRuns ⟨3⟩)
      greetedOverTables wornOut :=
    .runCall [_] [] (.runCall [] [_] .refl (by decide +kernel) (greetsByHand_isFree _))
      (by decide +kernel) (greetsByHand_isFree _)
  refine ⟨⟨greetedAloud_isRested, rfl, rfl, _, raised, ?_, ?_⟩,
    greetedOverTables_isRested, ?_, ?_, _, worn, ?_, ?_⟩
  · exact fun _ _ _ => heardOut_over _
  · decide +kernel
  · decide +kernel
  · decide +kernel
  · exact fun _ _ _ => wornOut_over _
  · decide +kernel

end System

end RecordFlow
