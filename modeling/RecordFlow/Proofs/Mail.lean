/-
# Mail — the log of deliveries

Of a delivery it matters here under which identifier it stands, for which
action of which run it is, and how it ended, if it has.  These lines are read
off the list of the memory store and off the table of the relational one.

A delivery is stored under the next number when it is opened, and after that it
is shown and saved under its own number only.  So the log has one line for
every delivery that was ever submitted, in the order of submission, and what is
written of a delivery takes the place of what was written of it before:
`Logs.openDelivery`, `Logs.publishDelivery` and `Logs.saveDelivery`.  No other
request touches the log or the deliveries that wait for their start.
-/
import RecordFlow.Proofs.Aside
import RecordFlow.Proofs.Tables

namespace RecordFlow

/-! ## Lines of the log -/

/-- What is seen of a delivery in the log. -/
structure DeliveryLine where
  id : RecordId
  actionId : Uid
  workflowId : Option Uid
  executionId : Option RecordId
  status : ColumnWord DeliveryStatus
  /-- Whether the delivery has a time of completion. -/
  completed : Bool
deriving DecidableEq, Repr

/-- The line of a delivery. -/
def Delivery.line (d : Delivery) : DeliveryLine where
  id := d.id
  actionId := d.actionId
  workflowId := d.workflowId
  executionId := d.executionId
  status := .ofOpen d.status
  completed := d.completedAt.isSome

@[simp] theorem Delivery.line_id (d : Delivery) : d.line.id = d.id := rfl

/-- The line of a row. -/
def DeliveryRow.line (r : DeliveryRow) : DeliveryLine where
  id := r.id
  actionId := r.actionId
  workflowId := r.workflowId
  executionId := r.executionId
  status := r.status
  completed := r.completedAt.isSome

@[simp] theorem DeliveryRow.line_id (r : DeliveryRow) : r.line.id = r.id := rfl

/-- A line whose status is a member's name. -/
def DeliveryLine.IsLegible (l : DeliveryLine) : Prop :=
  ∃ status, l.status = .ofOpen (.known status)

/-- A delivery whose numbers have room in the columns. -/
structure Delivery.Fits (d : Delivery) : Prop where
  attempts : Column.whole d.attempts = .ok d.attempts
  responseStatus : Column.whole? d.responseStatus = .ok d.responseStatus

namespace DeliveryRow

variable {d : Delivery} {row : DeliveryRow}

theorem line_ofDelivery (h : ofDelivery d = .ok row) : row.line = d.line := by
  obtain ⟨attempts, _, h⟩ := ok_of_bind_ok h
  obtain ⟨response, _, h⟩ := ok_of_bind_ok h
  obtain rfl := Except.ok.inj h
  simp [line, Delivery.line]

theorem ofDelivery_of_fits (fits : d.Fits) : ∃ row, ofDelivery d = .ok row := by
  rw [ofDelivery, fits.attempts, fits.responseStatus]
  exact ⟨_, rfl⟩

theorem toDelivery_of_legible (legible : row.line.IsLegible) :
    ∃ d, row.toDelivery = .ok d := by
  obtain ⟨status, known⟩ := legible
  have read : row.status.readOpen = .ok (.known status) := by
    rw [show row.status = _ from known]
    exact ColumnWord.readOpen_ofOpen ⟨status, rfl⟩
  rw [toDelivery, read]
  exact ⟨_, rfl⟩

end DeliveryRow

/-- The deliveries of a store, as either kind keeps them. -/
def Store.parcels : Store → List (Filed Delivery) ⊕ List DeliveryRow
  | memory m => .inl m.deliveries
  | relational r => .inr r.deliveries

/-- The log of deliveries of a store. -/
def Store.mail (s : Store) : List DeliveryLine :=
  s.parcels.elim (List.map fun d => d.record.line) (List.map DeliveryRow.line)

/-! ## Saving a delivery -/

namespace RelationalStore

variable {s t : RelationalStore} {d : Delivery} {old : DeliveryRow}

theorem insertDelivery_ok (h : s.insertDelivery d = .ok t) :
    ∃ row, row.line = d.line ∧ Keyed.find? DeliveryRow.id row.id s.deliveries = none ∧
      t = { s with deliveries := s.deliveries ++ [row] } := by
  obtain ⟨row, hrow, h⟩ := ok_of_bind_ok h
  obtain ⟨rows, hrows, h⟩ := ok_of_bind_ok h
  obtain ⟨rfl, absent⟩ := insertRow_ok hrows
  exact ⟨row, DeliveryRow.line_ofDelivery hrow, absent, (Except.ok.inj h).symm⟩

theorem replaceDelivery_ok (h : s.replaceDelivery old d = .ok t) :
    ∃ row, row.line = d.line ∧
      t = { s with deliveries := Keyed.put DeliveryRow.id row s.deliveries } := by
  obtain ⟨_, _, h⟩ := ok_of_bind_ok h
  obtain ⟨row, hrow, h⟩ := ok_of_bind_ok h
  obtain ⟨_, _, h⟩ := ok_of_bind_ok h
  have line : row.line = d.line := DeliveryRow.line_ofDelivery hrow
  exact ⟨{ row with createdAt := old.createdAt }, line, (Except.ok.inj h).symm⟩

theorem getDelivery_inserted {row : DeliveryRow}
    (new : Keyed.find? DeliveryRow.id row.id s.deliveries = none) (legible : row.line.IsLegible) :
    ∃ d, ({ s with deliveries := s.deliveries ++ [row] } : RelationalStore).getDelivery row.id
      = .ok d := by
  obtain ⟨d, read⟩ := DeliveryRow.toDelivery_of_legible legible
  refine ⟨some d, ?_⟩
  rw [getDelivery, find?_append_of_none new, Option.mapM_some, read]
  rfl

/-- A saved delivery has its line in the table; a delivery that cannot be saved changes nothing. -/
theorem saveDelivery_cases (s : RelationalStore) (legible : d.line.IsLegible) :
    (∃ f, s.saveDelivery d = (.error f, s)) ∨
      ∃ t, s.saveDelivery d = (.ok (), t) ∧ t.deliveries.map DeliveryRow.line
        = Keyed.put DeliveryLine.id d.line (s.deliveries.map DeliveryRow.line) := by
  unfold saveDelivery
  split
  · cases inserted : s.insertDelivery d with
    | error f => exact .inl ⟨f, rfl⟩
    | ok t =>
        obtain ⟨row, line, new, rfl⟩ := insertDelivery_ok inserted
        obtain ⟨d', read⟩ := getDelivery_inserted new (line ▸ legible)
        rw [show row.id = d.id from congrArg DeliveryLine.id line] at read
        refine .inr ⟨_, inserting_ok read, ?_⟩
        have fresh : d.line.id ∉ (s.deliveries.map DeliveryRow.line).map DeliveryLine.id := by
          rw [List.map_map, ← line]
          exact Keyed.find?_eq_none_iff.mp new
        rw [put_of_fresh fresh, List.map_append, List.map_singleton, line]
  · split
    · rename_i t replaced
      obtain ⟨row, line, rfl⟩ := replaceDelivery_ok replaced
      refine .inr ⟨_, rfl, ?_⟩
      rw [Keyed.map_put DeliveryRow.line_id, line]
    · rename_i f _
      exact .inl ⟨f, rfl⟩

/-- A delivery that has room in the columns is saved. -/
theorem saveDelivery_of_fits (fits : d.Fits) (legible : d.line.IsLegible)
    (readable : ∀ l ∈ s.deliveries.map DeliveryRow.line, l.IsLegible) :
    (s.saveDelivery d).1 = .ok () := by
  obtain ⟨row, hrow⟩ := DeliveryRow.ofDelivery_of_fits fits
  have line := DeliveryRow.line_ofDelivery hrow
  have id : row.id = d.id := congrArg DeliveryLine.id line
  unfold saveDelivery
  split
  · rename_i absent
    rw [← id] at absent
    obtain ⟨d', read⟩ := getDelivery_inserted absent (line ▸ legible)
    have inserted : s.insertDelivery d = .ok { s with deliveries := s.deliveries ++ [row] } := by
      rw [insertDelivery, hrow]
      simp [insertRow, absent, bind, Except.bind, pure, Except.pure]
    rw [id] at read
    rw [inserted, inserting_ok read]
  · rename_i old found
    obtain ⟨before, hold⟩ := DeliveryRow.toDelivery_of_legible
      (readable _ (List.mem_map_of_mem (find?_mem found).1))
    obtain ⟨d', read⟩ := DeliveryRow.toDelivery_of_legible (line ▸ legible)
    simp [replaceDelivery, hold, hrow, read, bind, Except.bind, pure, Except.pure]

end RelationalStore

namespace Store

variable {s : Store} {d : Filed Delivery}

/-- A saved delivery has its line in the log; a delivery that cannot be saved changes nothing. -/
theorem saveDelivery_cases (s : Store) (legible : d.record.line.IsLegible) :
    (∃ f, s.saveDelivery d = (.error f, s)) ∨
      ∃ t, s.saveDelivery d = (.ok (), t) ∧
        t.mail = Keyed.put DeliveryLine.id d.record.line s.mail := by
  cases s with
  | memory m =>
      have keyed (d : Filed Delivery) : d.record.line.id = MemoryStore.deliveryKey d := rfl
      exact .inr ⟨_, rfl, Keyed.map_put keyed d m.deliveries⟩
  | relational r =>
      rcases r.saveDelivery_cases legible with ⟨f, failed⟩ | ⟨t, saved, mail⟩
      · exact .inl ⟨f, by rw [saveDelivery, failed]; rfl⟩
      · exact .inr ⟨.relational t, by rw [saveDelivery, saved]; rfl, mail⟩

/-- A delivery that has room in the columns is saved. -/
theorem saveDelivery_of_fits (fits : d.record.Fits) (legible : d.record.line.IsLegible)
    (readable : ∀ l ∈ s.mail, l.IsLegible) : (s.saveDelivery d).1 = .ok () := by
  cases s with
  | memory m => rfl
  | relational r => exact RelationalStore.saveDelivery_of_fits fits legible readable

end Store

/-! ## What leaves the log alone -/

/-- Requests to the log of deliveries, and for a delivery to begin. -/
def Request.isPostal : Request → Bool
  | openDelivery _ | publishDelivery _ | saveDelivery _ | fileDelivery _ => true
  | start (.delivery _) => true
  | _ => false

/-- The delivery that work in the background makes. -/
def Background.delivery? : Background → Option Delivery
  | run _ => none
  | delivery job => some job.delivery

namespace World

/-- The log of deliveries. -/
def mail (w : World) : List DeliveryLine := w.store.mail

/-- The deliveries that wait for their start. -/
def posted (w : World) : List Delivery := w.queue.filterMap Background.delivery?

/-- A delivery waits when it is the one that begins next or waits besides. -/
theorem mem_posted_iff {w : World} {works later : List Background} {work : Background}
    (queued : w.queue = works ++ work :: later) {x : Delivery} :
    x ∈ w.posted ↔
      x ∈ ({ w with queue := works ++ later } : World).posted ∨ work.delivery? = some x := by
  simp only [World.posted, queued, List.mem_filterMap, List.mem_append, List.mem_cons, or_and_right,
    exists_or, exists_eq_left]
  exact (or_congr_right or_comm).trans or_assoc.symm

/-- A delivery that is started waits after the others. -/
theorem posted_start (w : World) (job : QueuedDelivery) :
    (w.answer (.start (.delivery job))).2.posted = w.posted ++ [job.delivery] := by
  rw [answer_start]
  exact List.filterMap_append

/-- The log of deliveries and those that wait are the same. -/
structure SameMail (w w' : World) : Prop where
  parcels : w'.store.parcels = w.store.parcels
  saved : w'.saved = w.saved
  posted : w'.posted = w.posted

namespace SameMail

variable {u v w : World}

theorem refl (w : World) : SameMail w w := ⟨rfl, rfl, rfl⟩

theorem trans (h : SameMail u v) (h' : SameMail v w) : SameMail u w :=
  ⟨h'.parcels.trans h.parcels, h'.saved.trans h.saved, h'.posted.trans h.posted⟩

theorem withFaults (w : World) (faults : List Fault) : SameMail w { w with faults } :=
  ⟨rfl, rfl, rfl⟩

theorem mail (h : SameMail v w) : w.mail = v.mail := by
  simp only [World.mail, Store.mail, h.parcels]

theorem withStore {s : Store} (parcels : s.parcels = w.store.parcels) :
    SameMail w (w.withStore s) :=
  ⟨parcels, rfl, rfl⟩

theorem editRule (w : World) (slot : Option Nat) (f : AssignmentRule → AssignmentRule) :
    SameMail w (w.editRule slot f) := by
  refine ⟨?_, rfl, rfl⟩
  simp only [World.editRule, Store.editRule]
  cases w.store <;> rfl

theorem editWorkflow (w : World) (slot : Option Nat) (f : Workflow → Workflow) :
    SameMail w (w.editWorkflow slot f) := by
  refine ⟨?_, rfl, ?_⟩
  · simp only [World.editWorkflow, Store.editWorkflow]
    cases w.store <;> rfl
  · simp only [World.posted, World.editWorkflow, List.filterMap_map]
    congr 1
    funext work
    cases work <;> rfl

theorem storing {α : Type} {answer : α} {after : Except Failure Unit × Store}
    {also : World → World} (parcels : after.2.parcels = w.store.parcels)
    (kept : ∀ v, SameMail v (also v)) : SameMail w (w.storing answer after also).2 :=
  storing_of_stored (withStore parcels) fun v same => same.trans (kept v)

theorem patching (w : World) (t : String) (f : Adapter → Except Failure Adapter) :
    SameMail w (w.patching t f).2 :=
  patching_of_patched (refl w) fun _ => ⟨rfl, rfl, rfl⟩

end SameMail

theorem parcels_createExecution (s : Store) (e : Execution) :
    (s.createExecution e).2.parcels = s.parcels :=
  s.createExecution_apart (fun _ _ => rfl) (fun _ _ => rfl) e

theorem parcels_finishExecution (s : Store) (e : Execution) :
    (s.finishExecution e).2.parcels = s.parcels :=
  s.finishExecution_apart (fun _ _ => rfl) (fun _ _ => rfl) e

theorem sameMail_advanceRotation (w : World) (id : Uid) (size : Int) :
    SameMail w (w.perform (.advanceRotation id size)).2 := by
  refine advanceRotation_of_turned (SameMail.refl w) (fun place s advanced => .withStore ?_)
    fun v slot f same => same.trans (.editRule v slot f)
  rcases advanceRotation_cases advanced with ⟨m, rules, hs, rfl⟩ | ⟨r, rules, hs, rfl⟩ <;>
    rw [hs] <;> rfl

theorem sameMail_perform (w : World) {r : Request} (plain : r.isPostal = false) :
    SameMail w (w.perform r).2 := by
  cases r with
  | recordRun id time =>
      simp only [perform, countRun]
      split
      · exact .editWorkflow ..
      · refine .withStore ?_
        cases w.store <;> rfl
  | openExecution e =>
      have issued : SameMail w { w with issued := w.issued + 1 } := ⟨rfl, rfl, rfl⟩
      exact issued.trans (.storing (parcels_createExecution _ _) fun _ => ⟨rfl, rfl, rfl⟩)
  | createExecution e => exact .storing (parcels_createExecution _ _) fun _ => ⟨rfl, rfl, rfl⟩
  | publishExecution e =>
      refine .withStore ?_
      simp only [Store.publishExecution]
      cases w.store <;> rfl
  | finishExecution e => exact .storing (parcels_finishExecution _ _) .refl
  | advanceRotation id size => exact w.sameMail_advanceRotation id size
  | writeCursor rule place => exact .editRule ..
  | turnCursor rule size => exact .editRule ..
  | openDelivery d | publishDelivery d | saveDelivery d | fileDelivery d => cases plain
  | updateField t id field value => exact .patching ..
  | connectTag t id tag => exact .patching ..
  | disconnectTag t id tag => exact .patching ..
  | claim k =>
      simp only [perform]
      split <;> exact ⟨rfl, rfl, rfl⟩
  | start work =>
      cases work with
      | run q => exact ⟨rfl, rfl, by simp [posted, perform, Background.delivery?]⟩
      | delivery job => cases plain
  | _ => exact ⟨rfl, rfl, rfl⟩

/-- The answer to a request that is not postal leaves the log and those that wait alone. -/
theorem sameMail_answer (w : World) {r : Request} (plain : r.isPostal = false) :
    SameMail w (w.answer r).2 := by
  refine answer_of_perform (SameMail.withFaults w) fun faults => ?_
  exact (SameMail.withFaults w faults).trans (sameMail_perform _ plain)

/-! ## The log -/

theorem record_held (d : Delivery) : (held d).record = d := by
  unfold held
  split <;> rfl

/-- The log of deliveries is numbered in the order of submission; in memory it is shared with the
work that makes the deliveries. -/
structure Logs (w : World) : Prop where
  shared : ∀ ds, w.store.parcels = .inl ds → ∀ d ∈ ds, d = held d.record
  numbered : w.mail.map DeliveryLine.id = (List.range w.saved.length).map fun n => .issued (n + 1)
  saved : w.saved.map Delivery.id = w.mail.map DeliveryLine.id

/-- The log goes on as these lines, with the same deliveries waiting. -/
structure LogsOn (w w' : World) (lines : List DeliveryLine) : Prop where
  logs : w'.Logs
  mail : w'.mail = lines
  posted : w'.posted = w.posted

namespace Logs

variable {w w' : World} {d : Delivery}

theorem of_same (h : w.Logs) (same : SameMail w w') : w'.Logs where
  shared := by rw [same.parcels]; exact h.shared
  numbered := by rw [same.mail, same.saved, h.numbered]
  saved := by rw [same.mail, same.saved, h.saved]

/-- What waits in the background is no part of the log. -/
theorem of_queue (h : w.Logs) (queue : List Background) :
    ({ w with queue := queue } : World).Logs :=
  ⟨h.shared, h.numbered, h.saved⟩

/-- No two deliveries have one identifier. -/
theorem once (h : w.Logs) : (w.mail.map DeliveryLine.id).Nodup := by
  rw [h.numbered]
  refine List.nodup_range.map ?_
  intro m n same
  exact Nat.succ.inj (RecordId.issued.inj same)

/-- The next number has not been issued. -/
theorem fresh (h : w.Logs) : .issued (w.saved.length + 1) ∉ w.mail.map DeliveryLine.id := by
  rw [h.numbered]
  intro there
  obtain ⟨n, below, same⟩ := List.mem_map.mp there
  obtain rfl := Nat.succ.inj (RecordId.issued.inj same)
  exact Nat.lt_irrefl _ (List.mem_range.mp below)

theorem exists_number (h : w.Logs) (there : d.id ∈ w.mail.map DeliveryLine.id) :
    ∃ n, d.id = .issued n := by
  rw [h.numbered] at there
  obtain ⟨n, -, same⟩ := List.mem_map.mp there
  exact ⟨n + 1, same.symm⟩

/-- A log of which one line is written anew. -/
theorem rewritten (h : w.Logs)
    (shared : ∀ ds, w'.store.parcels = .inl ds → ∀ d ∈ ds, d = held d.record)
    (mail : w'.mail = Keyed.modify DeliveryLine.id d.id (fun _ => d.line) w.mail)
    (saved : w'.saved.map Delivery.id = w.saved.map Delivery.id) (posted : w'.posted = w.posted) :
    LogsOn w w' (Keyed.modify DeliveryLine.id d.id (fun _ => d.line) w.mail) := by
  have ids : w'.mail.map DeliveryLine.id = w.mail.map DeliveryLine.id := by
    rw [mail]
    exact map_modify_kept fun _ _ same => same.symm
  have count : w'.saved.length = w.saved.length := by
    rw [← List.length_map (f := Delivery.id), saved, List.length_map]
  exact ⟨⟨shared, by rw [ids, count, h.numbered], by rw [ids, saved, h.saved]⟩, mail, posted⟩

/-- A log at the end of which a new line is written under the next number. -/
theorem lengthened (h : w.Logs) (id : d.id = .issued (w.saved.length + 1))
    (shared : ∀ ds, w'.store.parcels = .inl ds → ∀ d ∈ ds, d = held d.record)
    (mail : w'.mail = w.mail ++ [d.line]) (saved : w'.saved = w.saved ++ [d])
    (posted : w'.posted = w.posted) : LogsOn w w' (w.mail ++ [d.line]) where
  logs := {
    shared := shared
    numbered := by
      simp only [mail, saved, List.map_append, h.numbered, List.length_append,
        List.length_singleton, List.range_succ, List.map_singleton, Delivery.line_id, id]
    saved := by
      rw [mail, saved, List.map_append, List.map_append, h.saved]
      rfl }
  mail := mail
  posted := posted

theorem exists_held {m : MemoryStore} (h : w.Logs) (memory : w.store = .memory m) :
    ∃ ds : List Delivery, m.deliveries = ds.map held ∧ w.mail = ds.map Delivery.line := by
  refine ⟨m.deliveries.map Filed.record, ?_, ?_⟩
  · rw [List.map_map]
    refine ((List.map_congr_left fun d hd => ?_).trans (List.map_id _)).symm
    exact (h.shared m.deliveries (by rw [memory]; rfl) d hd).symm
  · rw [World.mail, memory, List.map_map]
    rfl

theorem edit_held {x : Delivery} {n : Nat} (number : d.id = .issued n) :
    Filed.edit n (fun _ => d) (held x) = held (if x.id = d.id then d else x) := by
  rw [number]
  cases hx : x.id with
  | given id => simp [held, hx, Filed.edit, Store.copy]
  | issued k =>
      by_cases same : k = n
      · subst same
        simp [held, hx, number, Filed.edit]
      · simp [held, hx, same, Filed.edit]

/-- What is shown of a delivery in memory takes the place of what is stored of it. -/
theorem parcels_publishDelivery {m : MemoryStore} {ds : List Delivery} {n : Nat}
    (deliveries : m.deliveries = ds.map held) (number : d.id = .issued n) :
    ((Store.memory m).publishDelivery (held d)).parcels
      = .inl ((Keyed.modify Delivery.id d.id (fun _ => d) ds).map held) := by
  rw [held, number]
  show Sum.inl (Filed.editAll (some n) (fun _ => d) m.deliveries) = _
  rw [deliveries, Filed.editAll, Keyed.modify, List.map_map, List.map_map]
  exact congrArg Sum.inl (List.map_congr_left fun x _ => number ▸ edit_held number)

/-- What is shown of a delivery is seen in memory, in the place of what was shown before. -/
theorem publishDelivery (h : w.Logs) (there : d.id ∈ w.mail.map DeliveryLine.id) :
    LogsOn w (w.answer (.publishDelivery d)).2 w.mail ∨
      LogsOn w (w.answer (.publishDelivery d)).2
        (Keyed.modify DeliveryLine.id d.id (fun _ => d.line) w.mail) := by
  have saved : (Keyed.modify Delivery.id d.id (fun _ => d) w.saved).map Delivery.id
      = w.saved.map Delivery.id := map_modify_kept fun _ _ same => same.symm
  cases hs : w.store with
  | memory m =>
      obtain ⟨n, number⟩ := h.exists_number there
      obtain ⟨ds, deliveries, mail⟩ := h.exists_held hs
      have after : (w.answer (.publishDelivery d)).2.store.parcels
          = .inl ((Keyed.modify Delivery.id d.id (fun _ => d) ds).map held) := by
        show (w.store.publishDelivery (held d)).parcels = _
        rw [hs]
        exact parcels_publishDelivery deliveries number
      refine .inr (h.rewritten ?_ ?_ saved rfl)
      · intro ds' same x hx
        rw [after] at same
        obtain rfl := Sum.inl.inj same
        obtain ⟨y, _, rfl⟩ := List.mem_map.mp hx
        rw [record_held]
      · rw [World.mail, Store.mail, after, mail]
        show (List.map held _).map _ = _
        rw [List.map_map, ← map_modify Delivery.line_id]
        exact List.map_congr_left fun x _ => congrArg Delivery.line (record_held x)
  | relational r =>
      have store : (w.answer (.publishDelivery d)).2.store = w.store := by
        show w.store.publishDelivery (held d) = _
        rw [hs]
        rfl
      have mail : (w.answer (.publishDelivery d)).2.mail = w.mail := congrArg Store.mail store
      have count : (w.answer (.publishDelivery d)).2.saved.length = w.saved.length :=
        List.length_map _
      refine .inl ⟨⟨?_, ?_, ?_⟩, mail, rfl⟩
      · rw [store]
        exact h.shared
      · rw [mail, count, h.numbered]
      · rw [mail, ← h.saved]
        exact saved

/-- What is saved for the work that makes the delivery is shared with it. -/
theorem shared_saveDelivery (h : w.Logs) :
    ∀ ds, (w.store.saveDelivery (held d)).2.parcels = .inl ds → ∀ x ∈ ds, x = held x.record := by
  intro ds after x hx
  cases hs : w.store with
  | memory m =>
      rw [hs] at after
      obtain rfl : Keyed.put MemoryStore.deliveryKey (held d) m.deliveries = ds := Sum.inl.inj after
      rcases Keyed.mem_put hx with rfl | hx
      · rw [record_held]
      · exact h.shared m.deliveries (by rw [hs]; rfl) x hx
  | relational r =>
      rw [hs] at after
      cases after

/-- That a delivery in the log was saved is known. -/
theorem noteSaved_of_mem (h : w.Logs) (there : d.id ∈ w.mail.map DeliveryLine.id)
    (same : w'.saved = w.saved) : noteSaved d w' = w' := by
  refine if_pos ?_
  rw [same, Option.isSome_iff_ne_none, Ne, Keyed.find?_eq_none_iff, not_not, h.saved]
  exact there

/-- That a delivery was saved which is new to the log is noted. -/
theorem noteSaved_of_fresh (h : w.Logs) (fresh : d.id ∉ w.mail.map DeliveryLine.id)
    (same : w'.saved = w.saved) : noteSaved d w' = { w' with saved := w.saved ++ [d] } := by
  rw [← same]
  refine if_neg ?_
  rw [Option.isSome_iff_ne_none, Ne, not_not, Keyed.find?_eq_none_iff, same, h.saved]
  exact fresh

/-- A delivery in the log is saved in its place, unless the call fails and changes nothing. -/
theorem saveDelivery (h : w.Logs) (there : d.id ∈ w.mail.map DeliveryLine.id)
    (legible : d.line.IsLegible) :
    (∃ f, (w.answer (.saveDelivery d)).1 = .error f ∧
      SameMail w (w.answer (.saveDelivery d)).2) ∨
    (w.answer (.saveDelivery d)).1 = .ok d ∧ LogsOn w (w.answer (.saveDelivery d)).2
      (Keyed.modify DeliveryLine.id d.id (fun _ => d.line) w.mail) := by
  rcases w.answer_cases (.saveDelivery d) with ⟨no, _⟩ | ⟨f, faults, ha⟩ | ⟨faults, ha⟩
  · cases no
  · rw [ha]
    exact .inl ⟨f, rfl, .withFaults w faults⟩
  · rw [ha]
    simp only [perform]
    have shared := h.shared_saveDelivery (d := d)
    rcases w.store.saveDelivery_cases (d := held d) (by rwa [record_held]) with
      ⟨f, failed⟩ | ⟨t, stored, mail⟩
    · rw [failed]
      exact .inl ⟨f, rfl, rfl, rfl, rfl⟩
    · rw [stored] at shared ⊢
      have noted : noteSaved d (({ w with faults } : World).withStore t) = _ :=
        h.noteSaved_of_mem there rfl
      rw [storing, noted]
      rw [record_held] at mail
      exact .inr ⟨rfl, h.rewritten shared (mail.trans (put_of_mem h.once there)) rfl rfl⟩

/-- A delivery is opened under the next number at the end of the log, unless the call fails and
changes nothing. -/
theorem openDelivery (h : w.Logs) (legible : d.line.IsLegible) :
    (∃ f, (w.answer (.openDelivery d)).1 = .error f ∧
      SameMail w (w.answer (.openDelivery d)).2) ∨
    ∃ d', d' = { d with id := .issued (w.saved.length + 1) } ∧
      (w.answer (.openDelivery d)).1 = .ok d' ∧
      LogsOn w (w.answer (.openDelivery d)).2 (w.mail ++ [d'.line]) := by
  rcases w.answer_cases (.openDelivery d) with ⟨no, _⟩ | ⟨f, faults, ha⟩ | ⟨faults, ha⟩
  · cases no
  · rw [ha]
    exact .inl ⟨f, rfl, .withFaults w faults⟩
  · rw [ha]
    simp only [perform]
    generalize hd : ({ d with id := .issued (w.saved.length + 1) } : Delivery) = d'
    have id : d'.id = .issued (w.saved.length + 1) := by rw [← hd]
    have fresh : d'.line.id ∉ w.mail.map DeliveryLine.id := by
      rw [Delivery.line_id, id]
      exact h.fresh
    have shared := h.shared_saveDelivery (d := d')
    rcases w.store.saveDelivery_cases (d := held d') (by rw [record_held, ← hd]; exact legible) with
      ⟨f, failed⟩ | ⟨t, stored, mail⟩
    · rw [failed]
      exact .inl ⟨f, rfl, rfl, rfl, rfl⟩
    · rw [stored] at shared ⊢
      have noted : noteSaved d' (({ w with faults } : World).withStore t) = _ :=
        h.noteSaved_of_fresh fresh rfl
      rw [storing, noted]
      rw [record_held] at mail
      exact .inr ⟨d', rfl, rfl, h.lengthened id shared (mail.trans (put_of_fresh fresh)) rfl rfl⟩

end Logs

/-! ## Saves that do not fail -/

section

variable {w : World} {d : Delivery}

theorem storing_ok {α : Type} {answer : α} {after : Except Failure Unit × Store}
    {also : World → World} (ok : after.1 = .ok ()) :
    (w.storing answer after also).1 = .ok answer := by
  obtain ⟨x, s⟩ := after
  obtain rfl : x = .ok () := ok
  rfl

theorem saveDelivery_ok (spared : w.Spares "store.save_webhook_delivery") (fits : d.Fits)
    (legible : d.line.IsLegible) (readable : ∀ l ∈ w.mail, l.IsLegible) :
    (w.answer (.saveDelivery d)).1 = .ok d := by
  rw [answer_of_spared rfl spared rfl rfl]
  refine storing_ok (Store.saveDelivery_of_fits ?_ ?_ readable) <;> rwa [record_held]

end

end World
end RecordFlow
