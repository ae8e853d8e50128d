/-
# The ledger — one view of the executions of either store

Of an execution it matters here under which identifier it stands, for which
workflow and record it is, and whether it is completed.  These lines are read
off the list of the memory store and off the table of the relational one, and
a write to either is told by what becomes of the lines: `Rewritten` says that
nothing comes in but under the identifier that is written, and that nothing
else goes.
-/
import Mathlib.Data.List.Nodup
import RecordFlow.Engine.World
import RecordFlow.Proofs.Sequences
import RecordFlow.Proofs.Sorting

namespace RecordFlow

/-- What an execution is for. -/
def Execution.key (e : Execution) : RunKey :=
  { workflowId := e.workflowId, entityType := e.entityType, entityId := e.entityId }

/-- What is seen of an execution in the ledger. -/
structure LedgerLine where
  id : RecordId
  key : RunKey
  completed : Bool
deriving DecidableEq, Repr

/-- The line of an execution. -/
def Execution.line (e : Execution) : LedgerLine :=
  { id := e.id, key := e.key, completed := e.isCompleted }

@[simp] theorem Execution.line_id (e : Execution) : e.line.id = e.id := rfl

/-- The line of a row. -/
def ExecutionRow.line (r : ExecutionRow) : LedgerLine where
  id := r.id
  key := { workflowId := r.workflowId, entityType := r.entityType, entityId := r.entityId }
  completed := r.status = .ofOpen (.known .completed)

@[simp] theorem ExecutionRow.line_id (r : ExecutionRow) : r.line.id = r.id := rfl

/-- The ledger of a store. -/
def Store.ledger : Store → List LedgerLine
  | .memory m => m.executions.map Execution.line
  | .relational r => r.executions.map ExecutionRow.line

/-- The identifiers in a ledger. -/
def LedgerLine.ids (ls : List LedgerLine) : List RecordId := ls.map LedgerLine.id

theorem LedgerLine.ids_executions (es : List Execution) :
    LedgerLine.ids (es.map Execution.line) = es.map Execution.id := List.map_map

/-- Where identifiers occur once, a line is told by its identifier. -/
theorem LedgerLine.eq_of_id_eq {ls : List LedgerLine} {a b : LedgerLine}
    (once : (LedgerLine.ids ls).Nodup) (ha : a ∈ ls) (hb : b ∈ ls) (same : a.id = b.id) :
    a = b := by
  induction ls with
  | nil => cases ha
  | cons l ls ih =>
      obtain ⟨absent, once⟩ := List.nodup_cons.mp once
      rcases List.mem_cons.mp ha with rfl | ha'
      · rcases List.mem_cons.mp hb with rfl | hb'
        · rfl
        · exact absurd (same ▸ List.mem_map_of_mem hb') absent
      · rcases List.mem_cons.mp hb with rfl | hb'
        · exact absurd (same ▸ List.mem_map_of_mem ha') absent
        · exact ih once ha' hb'

/-- Whether a line is of a completed run for a key. -/
def LedgerLine.isCompletedFor (l : LedgerLine) (k : RunKey) : Bool := l.key = k && l.completed

theorem hasCompleted_eq_any (s : Store) (k : RunKey) :
    s.hasCompleted k.workflowId k.entityType k.entityId
      = s.ledger.any fun l => l.isCompletedFor k := by
  obtain ⟨workflowId, entityType, entityId⟩ := k
  cases s with
  | memory m =>
      simp only [Store.hasCompleted, MemoryStore.hasCompleted, Store.ledger, List.any_map]
      congr 1
      funext e
      simp [LedgerLine.isCompletedFor, Execution.line, Execution.key, Execution.isFor,
        Bool.and_assoc]
  | relational r =>
      simp only [Store.hasCompleted, RelationalStore.hasCompleted, Store.ledger, List.any_map]
      congr 1
      funext row
      simp [LedgerLine.isCompletedFor, ExecutionRow.line, ExecutionRow.isCompletedFor,
        Bool.and_assoc]

/-! ## Rewriting a line -/

/-- A line that has come under the identifier of a written execution: with its status, for its
key or for that of the line it took the place of. -/
def LedgerLine.Stands (e : Execution) (key : RunKey) (l : LedgerLine) : Prop :=
  l.id = e.id ∧ l.completed = e.isCompleted ∧ (l.key = e.key ∨ l.key = key)

/-- What becomes of a ledger when an execution is written. -/
structure Rewritten (e : Execution) (before after : List LedgerLine) : Prop where
  nodup : (LedgerLine.ids before).Nodup → (LedgerLine.ids after).Nodup
  /-- What stands in the ledger stood there or was written. -/
  comes : ∀ l ∈ after, l ∈ before ∨
    l.id = e.id ∧ (l.key = e.key ∨ ∃ old ∈ before, old.id = e.id ∧ old.key = l.key)
      ∧ l.completed = e.isCompleted
  /-- What stood in the ledger stands there or was written over. -/
  stays : ∀ l ∈ before, l ∈ after ∨ l.id = e.id ∧ ∃ new ∈ after, new.Stands e l.key

namespace Rewritten

variable {e : Execution} {ls : List LedgerLine}

theorem refl : Rewritten e ls ls :=
  ⟨id, fun _ h => .inl h, fun _ h => .inl h⟩

/-- A line is added under an identifier that is new. -/
theorem append (fresh : e.id ∉ LedgerLine.ids ls) : Rewritten e ls (ls ++ [e.line]) where
  nodup h := by
    rw [LedgerLine.ids, List.map_append, List.nodup_append]
    refine ⟨h, by simp, ?_⟩
    intro a ha b hb
    obtain rfl : b = e.id := by simpa [Execution.line] using hb
    exact fun h => fresh (h ▸ ha)
  comes l h := by
    rcases List.mem_append.mp h with h | h
    · exact .inl h
    · obtain rfl : l = e.line := by simpa using h
      exact .inr ⟨rfl, .inl rfl, rfl⟩
  stays l h := .inl (List.mem_append_left _ h)

/-- The lines under an identifier are replaced where they stand. -/
theorem replace {new : LedgerLine} (id : new.id = e.id) (completed : new.completed = e.isCompleted)
    (key : new.key = e.key ∨ ∃ old ∈ ls, old.id = e.id ∧ old.key = new.key)
    (same : ∀ l ∈ ls, l.id = e.id → new.key = e.key ∨ new.key = l.key) :
    Rewritten e ls (Keyed.modify LedgerLine.id e.id (fun _ => new) ls) where
  nodup h := by
    have ids : LedgerLine.ids (Keyed.modify LedgerLine.id e.id (fun _ => new) ls)
        = LedgerLine.ids ls := by
      simp only [LedgerLine.ids, Keyed.modify, List.map_map]
      refine List.map_congr_left fun l _ => ?_
      by_cases h : l.id = e.id <;> simp [h, id]
    rw [ids]
    exact h
  comes l h := by
    obtain ⟨old, mem, rfl⟩ := List.mem_map.mp h
    by_cases here : old.id = e.id
    · rw [if_pos here]
      exact .inr ⟨id, key, completed⟩
    · rw [if_neg here]
      exact .inl mem
  stays l h := by
    have moved := List.mem_map_of_mem (f := fun l => if l.id = e.id then new else l) h
    by_cases here : l.id = e.id
    · rw [if_pos here] at moved
      exact .inr ⟨here, new, moved, id, completed, same l h here⟩
    · rw [if_neg here] at moved
      exact .inl moved

end Rewritten

/-! ## Keyed lists -/

/-- What is made of records is changed as the records are. -/
theorem map_modify_of {κ α β : Type} [DecidableEq κ] {key : α → κ} {key' : β → κ} {k : κ}
    {f : α → α} {g : β → β} {row : α → β} (keyed : ∀ a, key' (row a) = key a) {xs : List α}
    (each : ∀ a ∈ xs, key a = k → row (f a) = g (row a)) :
    (Keyed.modify key k f xs).map row = Keyed.modify key' k g (xs.map row) := by
  simp only [Keyed.modify, List.map_map]
  refine List.map_congr_left fun a ha => ?_
  by_cases here : key a = k
  · simp [here, keyed, each a ha here]
  · simp [here, keyed]

theorem map_modify {κ α β : Type} [DecidableEq κ] {key : α → κ} {key' : β → κ} {k : κ} {x : α}
    {f : α → β} (keyed : ∀ a, key' (f a) = key a) (xs : List α) :
    (Keyed.modify key k (fun _ => x) xs).map f
      = Keyed.modify key' k (fun _ => f x) (xs.map f) :=
  map_modify_of keyed fun _ _ _ => rfl

/-- What a change leaves as it is. -/
theorem map_modify_kept {κ α β : Type} [DecidableEq κ] {key : α → κ} {k : κ} {f : α → α}
    {g : α → β} {xs : List α} (kept : ∀ a ∈ xs, key a = k → g (f a) = g a) :
    (Keyed.modify key k f xs).map g = xs.map g := by
  rw [Keyed.modify, List.map_map]
  refine List.map_congr_left fun a ha => ?_
  by_cases here : key a = k
  · simp [here, kept a ha here]
  · simp [here]

/-- What holds of the records and of the changed one holds after the change. -/
theorem forall_mem_modify {κ α : Type} [DecidableEq κ] {key : α → κ} {k : κ} {f : α → α}
    {P : α → Prop} {xs : List α} (all : ∀ a ∈ xs, P a) (changed : ∀ a ∈ xs, key a = k → P (f a)) :
    ∀ a ∈ Keyed.modify key k f xs, P a := by
  intro a ha
  obtain ⟨b, hb, rfl⟩ := List.mem_map.mp ha
  by_cases here : key b = k
  · rw [if_pos here]
    exact changed b hb here
  · rw [if_neg here]
    exact all b hb

theorem put_of_fresh {κ α : Type} [DecidableEq κ] {key : α → κ} {x : α} {xs : List α}
    (fresh : key x ∉ xs.map key) : Keyed.put key x xs = xs ++ [x] := by
  induction xs with
  | nil => rfl
  | cons y ys ih =>
      simp only [List.map_cons, List.mem_cons, not_or] at fresh
      rw [Keyed.put, if_neg (Ne.symm fresh.1), ih fresh.2, List.cons_append]

theorem nodup_keys_append {κ α : Type} {key : α → κ} {xs : List α} {x : α}
    (once : (xs.map key).Nodup) (new : key x ∉ xs.map key) : ((xs ++ [x]).map key).Nodup := by
  rw [List.map_append, List.nodup_append]
  refine ⟨once, by simp, fun k hk l hl => ?_⟩
  rw [List.mem_singleton.mp hl]
  exact fun same => new (same ▸ hk)

/-- Where no record is under a key, there is nothing to change under it. -/
theorem modify_of_fresh {κ α : Type} [DecidableEq κ] {key : α → κ} {k : κ} {f : α → α}
    {xs : List α} (fresh : k ∉ xs.map key) : Keyed.modify key k f xs = xs := by
  refine (List.map_congr_left fun x hx => if_neg fun same => fresh ?_).trans (List.map_id xs)
  exact same ▸ List.mem_map_of_mem hx

/-- Where keys occur once, a record among others is changed alone. -/
theorem Keyed.modify_middle {κ α : Type} [DecidableEq κ] {key : α → κ} {f : α → α} {x : α}
    {front back : List α} (once : ((front ++ x :: back).map key).Nodup) :
    Keyed.modify key (key x) f (front ++ x :: back) = front ++ f x :: back := by
  rw [List.map_append, List.map_cons, List.nodup_middle, List.nodup_cons, List.mem_append,
    not_or] at once
  rw [Keyed.modify, List.map_append, List.map_cons, if_pos rfl, ← Keyed.modify, ← Keyed.modify,
    modify_of_fresh once.1.1, modify_of_fresh once.1.2]

/-- Where keys occur once, a record under a key that is there is replaced in its place. -/
theorem put_of_mem {κ α : Type} [DecidableEq κ] {key : α → κ} {x : α} {xs : List α}
    (once : (xs.map key).Nodup) (there : key x ∈ xs.map key) :
    Keyed.put key x xs = Keyed.modify key (key x) (fun _ => x) xs := by
  induction xs with
  | nil => cases there
  | cons y ys ih =>
      obtain ⟨absent, once⟩ := List.nodup_cons.mp once
      by_cases h : key y = key x
      · rw [Keyed.put, if_pos h, Keyed.modify, List.map_cons, if_pos h]
        exact congrArg _ (modify_of_fresh (h ▸ absent)).symm
      · rw [Keyed.put, if_neg h, Keyed.modify, List.map_cons, if_neg h]
        refine congrArg _ (ih once ?_)
        exact (List.mem_cons.mp there).resolve_left fun same => h same.symm

theorem find?_mem {κ α : Type} [DecidableEq κ] {key : α → κ} {k : κ} {x : α} {xs : List α}
    (h : Keyed.find? key k xs = some x) : x ∈ xs ∧ key x = k :=
  ⟨List.mem_of_find?_eq_some h, by simpa using List.find?_some h⟩

/-- Where keys occur once, a record is the one that is found under its key. -/
theorem find?_of_mem {κ α : Type} [DecidableEq κ] {key : α → κ} {xs : List α} {a : α}
    (once : (xs.map key).Nodup) (ha : a ∈ xs) : Keyed.find? key (key a) xs = some a := by
  cases found : Keyed.find? key (key a) xs with
  | none => exact absurd (List.find?_eq_none.mp found a ha) (by simp)
  | some b =>
      obtain ⟨hb, same⟩ := find?_mem found
      exact congrArg some (List.inj_on_of_nodup_map once hb ha same)

theorem Keyed.find?_eq_none_iff {κ α : Type} [DecidableEq κ] {key : α → κ} {k : κ} {xs : List α} :
    Keyed.find? key k xs = none ↔ k ∉ xs.map key := by
  simp [Keyed.find?]

theorem find?_append_of_none {κ α : Type} [DecidableEq κ] {key : α → κ} {x : α} {xs : List α}
    (absent : Keyed.find? key (key x) xs = none) :
    Keyed.find? key (key x) (xs ++ [x]) = some x := by
  rw [Keyed.find?] at absent ⊢
  simp [List.find?_append, absent]

/-- What is found after a change of the record under a key. -/
theorem find?_modify {κ α : Type} [DecidableEq κ] {key : α → κ} {k : κ} {x y : α} {xs : List α}
    (found : Keyed.find? key k xs = some x) (same : key y = k) :
    Keyed.find? key k (Keyed.modify key k (fun _ => y) xs) = some y := by
  induction xs with
  | nil => cases found
  | cons z zs ih =>
      simp only [Keyed.find?, Keyed.modify] at found ih ⊢
      by_cases here : key z = k
      · simp [here, same]
      · simp only [List.find?_cons, here, decide_false] at found
        simpa [here] using ih found

theorem Keyed.mem_modify {κ α : Type} [DecidableEq κ] {key : α → κ} {k : κ} {x y : α}
    {xs : List α} (h : y ∈ Keyed.modify key k (fun _ => x) xs) : y = x ∨ y ∈ xs ∧ key y ≠ k := by
  obtain ⟨old, hold, rfl⟩ := List.mem_map.mp h
  by_cases here : key old = k
  · exact .inl (if_pos here)
  · rw [if_neg here]
    exact .inr ⟨hold, here⟩

theorem Keyed.mem_modify_of_ne {κ α : Type} [DecidableEq κ] {key : α → κ} {k : κ} {y : α}
    {f : α → α} {xs : List α} (h : y ∈ xs) (other : key y ≠ k) : y ∈ Keyed.modify key k f xs :=
  List.mem_map.mpr ⟨y, h, if_neg other⟩

theorem Keyed.mem_modify_self {κ α : Type} [DecidableEq κ] {key : α → κ} {x y : α} {xs : List α}
    (h : y ∈ xs) : x ∈ Keyed.modify key (key y) (fun _ => x) xs :=
  List.mem_map.mpr ⟨y, h, if_pos rfl⟩

theorem Keyed.mem_put {κ α : Type} [DecidableEq κ] {key : α → κ} {x y : α} {xs : List α}
    (h : y ∈ Keyed.put key x xs) : y = x ∨ y ∈ xs := by
  induction xs with
  | nil => exact .inl (List.mem_singleton.mp h)
  | cons z zs ih =>
      rw [Keyed.put] at h
      split at h
      · exact (List.mem_cons.mp h).imp_right (List.mem_cons_of_mem z)
      · rcases List.mem_cons.mp h with rfl | h
        · exact .inr List.mem_cons_self
        · exact (ih h).imp_right (List.mem_cons_of_mem z)

/-- What is made of records is written as the records are. -/
theorem Keyed.map_put {κ α β : Type} [DecidableEq κ] {key : α → κ} {key' : β → κ} {row : α → β}
    (keyed : ∀ a, key' (row a) = key a) (x : α) (xs : List α) :
    (Keyed.put key x xs).map row = Keyed.put key' (row x) (xs.map row) := by
  induction xs with
  | nil => rfl
  | cons y ys ih =>
      rw [Keyed.put, List.map_cons, Keyed.put, keyed, keyed]
      split
      · rfl
      · rw [List.map_cons, ih]

/-- What is written as it stands changes nothing. -/
theorem Keyed.put_self {κ α : Type} [DecidableEq κ] {key : α → κ} {x : α} {xs : List α}
    (once : (xs.map key).Nodup) (there : x ∈ xs) : Keyed.put key x xs = xs := by
  rw [put_of_mem once (List.mem_map_of_mem there)]
  refine (List.map_congr_left fun y hy => ?_).trans (List.map_id xs)
  by_cases same : key y = key x
  · rw [if_pos same]
    exact List.inj_on_of_nodup_map once there hy same.symm
  · exact if_neg same

namespace Keyed

theorem lookup_cons_if {κ β : Type} [DecidableEq κ] (k k' : κ) (b : β) (xs : List (κ × β)) :
    ((k, b) :: xs).lookup k' = if k' = k then some b else xs.lookup k' := by
  by_cases asked : k' = k
  · simp [asked]
  · have passed : (k' == k) = false := by simpa using asked
    simp only [List.lookup_cons, passed, if_neg asked]

/-- What is looked up after a change of what stands under a key. -/
theorem lookup_modify {κ β : Type} [DecidableEq κ] (k k' : κ) (h : β → β) (xs : List (κ × β)) :
    (modify Prod.fst k (fun r => (r.1, h r.2)) xs).lookup k'
      = if k' = k then (xs.lookup k').map h else xs.lookup k' := by
  induction xs with
  | nil => simp [modify]
  | cons x xs ih =>
      obtain ⟨key, b⟩ := x
      rw [modify, List.map_cons, ← modify]
      by_cases here : key = k
      · subst here
        rw [if_pos rfl, lookup_cons_if, lookup_cons_if, ih]
        by_cases asked : k' = key <;> simp [asked]
      · rw [if_neg here, lookup_cons_if, lookup_cons_if, ih]
        by_cases asked : k' = key
        · subst asked
          simp [here]
        · simp [asked]

/-- What is looked up after something was put under a key. -/
theorem lookup_put {κ β : Type} [DecidableEq κ] (k k' : κ) (b : β) (xs : List (κ × β)) :
    (put Prod.fst (k, b) xs).lookup k' = if k' = k then some b else xs.lookup k' := by
  induction xs with
  | nil => rw [put, lookup_cons_if]
  | cons x xs ih =>
      obtain ⟨key, b'⟩ := x
      rw [put]
      by_cases here : key = k
      · subst here
        rw [if_pos rfl, lookup_cons_if, lookup_cons_if]
        by_cases asked : k' = key <;> simp [asked]
      · rw [if_neg here, lookup_cons_if, lookup_cons_if, ih]
        by_cases asked : k' = key
        · subst asked
          simp [here]
        · simp [asked]

/-- Where what is put in the place of another looks the same, all does. -/
theorem map_put_of_found {κ α β : Type} [DecidableEq κ] {key : α → κ} {x y : α} {xs : List α}
    (found : find? key (key x) xs = some y) {view : α → β} (same : view x = view y) :
    (put key x xs).map view = xs.map view := by
  induction xs with
  | nil => cases found
  | cons z zs ih =>
      by_cases here : key z = key x
      · obtain rfl : z = y := by simpa [find?, here] using found
        rw [put, if_pos here, List.map_cons, List.map_cons, same]
      · rw [put, if_neg here, List.map_cons, List.map_cons,
          ih (by simpa [find?, here] using found)]

end Keyed

/-! ## Writes to the memory store -/

section Memory

variable {e : Execution} {es : List Execution}

theorem rewritten_modify :
    Rewritten e (es.map Execution.line)
      ((Keyed.modify Execution.id e.id (fun _ => e) es).map Execution.line) := by
  rw [map_modify Execution.line_id]
  exact .replace rfl rfl (.inl rfl) fun _ _ _ => .inl rfl

theorem rewritten_put (once : (es.map Execution.id).Nodup) :
    Rewritten e (es.map Execution.line) ((Keyed.put Execution.id e es).map Execution.line) := by
  by_cases there : e.id ∈ es.map Execution.id
  · rw [put_of_mem once there]
    exact rewritten_modify
  · rw [put_of_fresh there, List.map_append]
    exact .append (by rwa [LedgerLine.ids_executions])

end Memory

/-! ## Writes to the relational store

A row that is inserted has the line of its execution, and the end of a run
leaves a row its key. -/

section Relational

variable {e : Execution} {row row' : ExecutionRow} {s : RelationalStore}

theorem known_completed_iff (status : RunStatus) :
    ColumnWord.ofOpen (.known status) = ColumnWord.ofOpen (.known RunStatus.completed)
      ↔ (.known status : Open RunStatus) = .known .completed := by
  cases status <;> decide

theorem line_ofExecution {status : RunStatus} (known : e.status = .known status)
    (h : ExecutionRow.ofExecution e = .ok row) : row.line = e.line := by
  obtain ⟨outcomes, _, h⟩ := ok_of_bind_ok h
  obtain ⟨count, _, h⟩ := ok_of_bind_ok h
  obtain rfl := Except.ok.inj h
  simp [ExecutionRow.line, Execution.line, Execution.key, Execution.isCompleted, known,
    known_completed_iff]

theorem line_finish {status : RunStatus} (known : e.status = .known status)
    (h : row.finish e = .ok row') : row'.line = { row.line with completed := e.isCompleted } := by
  obtain ⟨outcomes, _, h⟩ := ok_of_bind_ok h
  obtain ⟨count, _, h⟩ := ok_of_bind_ok h
  obtain rfl := Except.ok.inj h
  simp [ExecutionRow.line, Execution.isCompleted, known, known_completed_iff]

/-- An insertion adds one row, whose key was new. -/
theorem insertRow_ok {κ ρ : Type} [DecidableEq κ] {key : ρ → κ} {rows rows' : List ρ} {r : ρ}
    (h : RelationalStore.insertRow key rows r = .ok rows') :
    rows' = rows ++ [r] ∧ Keyed.find? key (key r) rows = none := by
  unfold RelationalStore.insertRow at h
  split at h
  · cases h
  · rename_i absent
    exact ⟨(Except.ok.inj h).symm, Option.not_isSome_iff_eq_none.mp absent⟩

/-- An execution that is added becomes one new row, or else nothing is changed and the addition
fails. -/
theorem addExecution_cases (s : RelationalStore) (e : Execution) :
    (s.addExecution e).2 = s ∧ (s.addExecution e).1 ≠ .ok () ∨
      ∃ row, ExecutionRow.ofExecution e = .ok row ∧
        Keyed.find? ExecutionRow.id row.id s.executions = none ∧
        (s.addExecution e).2 = { s with executions := s.executions ++ [row] } := by
  unfold RelationalStore.addExecution RelationalStore.inserting
  split
  · exact .inl ⟨rfl, by simp⟩
  · rename_i t inserted
    obtain ⟨row, hrow, inserted⟩ := ok_of_bind_ok inserted
    obtain ⟨rows, hrows, inserted⟩ := ok_of_bind_ok inserted
    obtain rfl := Except.ok.inj inserted
    obtain ⟨rfl, absent⟩ := insertRow_ok hrows
    exact .inr ⟨row, hrow, absent, rfl⟩

theorem finishExecution_ok {t : RelationalStore} (h : s.finishExecution e = .ok t) :
    ∃ old, Keyed.find? ExecutionRow.id e.id s.executions = some old ∧
      ∃ row, old.finish e = .ok row ∧
        t = { s with
          executions := Keyed.modify ExecutionRow.id e.id (fun _ => row) s.executions } := by
  unfold RelationalStore.finishExecution at h
  split at h
  · cases h
  · rename_i old found
    obtain ⟨_, _, h⟩ := ok_of_bind_ok h
    obtain ⟨row, hrow, h⟩ := ok_of_bind_ok h
    obtain ⟨_, _, h⟩ := ok_of_bind_ok h
    exact ⟨old, found, row, hrow, (Except.ok.inj h).symm⟩

/-- The end of a run is written to its row, or else nothing is changed and the call fails. -/
theorem finishExecution_cases (s : RelationalStore) (e : Execution) :
    (∃ f, (Store.relational s).finishExecution e = (.error f, .relational s)) ∨
      ∃ old, Keyed.find? ExecutionRow.id e.id s.executions = some old ∧
        ∃ row, old.finish e = .ok row ∧
          (Store.relational s).finishExecution e = (.ok (), .relational { s with
            executions := Keyed.modify ExecutionRow.id e.id (fun _ => row) s.executions }) := by
  cases finished : s.finishExecution e with
  | error f => exact .inl ⟨f, by simp only [Store.finishExecution, finished]⟩
  | ok t =>
      obtain ⟨old, found, row, hrow, rfl⟩ := finishExecution_ok finished
      exact .inr ⟨old, found, row, hrow, by simp only [Store.finishExecution, finished]⟩

end Relational

/-! ## Writes to either store -/

section Store

variable {s : Store} {e : Execution}

section Apart

variable {β : Type} {view : Store → β}
  (memory : ∀ m executions, view (.memory { m with executions }) = view (.memory m))
  (relational : ∀ r executions, view (.relational { r with executions }) = view (.relational r))

include memory relational

/-- Where a run begins, nothing is written but the executions. -/
theorem Store.createExecution_apart (s : Store) (e : Execution) :
    view (s.createExecution e).2 = view s := by
  cases s with
  | memory m => exact memory m _
  | relational r =>
      show view (.relational (r.addExecution e).2) = _
      rcases addExecution_cases r e with ⟨same, _⟩ | ⟨row, _, _, added⟩
      · rw [same]
      · rw [added]
        exact relational r _

/-- Where a run ends, nothing is written but the executions. -/
theorem Store.finishExecution_apart (s : Store) (e : Execution) :
    view (s.finishExecution e).2 = view s := by
  cases s with
  | memory m => exact memory m _
  | relational r =>
      rcases finishExecution_cases r e with ⟨f, failed⟩ | ⟨_, _, row, _, finished⟩
      · rw [failed]
      · rw [finished]
        exact relational r _

end Apart

theorem rewritten_createExecution {status : RunStatus} (known : e.status = .known status)
    (fresh : e.id ∉ LedgerLine.ids s.ledger) :
    Rewritten e s.ledger (s.createExecution e).2.ledger := by
  cases s with
  | memory m =>
      have absent : e.id ∉ m.executions.map Execution.id := by
        rwa [Store.ledger, LedgerLine.ids_executions] at fresh
      show Rewritten e _ ((Keyed.put Execution.id e m.executions).map Execution.line)
      rw [put_of_fresh absent, List.map_append]
      exact .append fresh
  | relational r =>
      show Rewritten e _ ((r.addExecution e).2.executions.map ExecutionRow.line)
      rcases addExecution_cases r e with ⟨same, _⟩ | ⟨row, hrow, _, added⟩
      · rw [same]
        exact .refl
      · rw [added, List.map_append, List.map_singleton, line_ofExecution known hrow]
        exact .append fresh

theorem rewritten_publishExecution : Rewritten e s.ledger (s.publishExecution e).ledger := by
  cases s with
  | memory m => exact rewritten_modify
  | relational r => exact .refl

theorem rewritten_finishExecution {status : RunStatus} (known : e.status = .known status)
    (once : (LedgerLine.ids s.ledger).Nodup) :
    Rewritten e s.ledger (s.finishExecution e).2.ledger := by
  cases s with
  | memory m => exact rewritten_put (by rwa [Store.ledger, LedgerLine.ids_executions] at once)
  | relational r =>
      rcases finishExecution_cases r e with ⟨f, failed⟩ | ⟨old, found, row, hrow, finished⟩
      · rw [failed]
        exact .refl
      · obtain ⟨mem, hid⟩ := find?_mem found
        have line := line_finish known hrow
        have there : old.line ∈ r.executions.map ExecutionRow.line := List.mem_map_of_mem mem
        rw [finished]
        simp only [Store.ledger]
        rw [map_modify ExecutionRow.line_id, line]
        refine .replace hid rfl (.inr ⟨old.line, there, hid, rfl⟩) fun l hl same => .inr ?_
        have one : old.line = l := LedgerLine.eq_of_id_eq once there hl (hid.trans same.symm)
        exact one ▸ rfl

end Store
end RecordFlow
