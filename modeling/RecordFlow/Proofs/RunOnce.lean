/-
# Runs once — one run at a time, and one to completion

Dispatches and the background are under way together, in any interleaving.  For
a workflow that is run once and for one record, there is never more than one
run that has not ended and never more than one that is completed; after that
one none is started; and a run that failed does not keep the next from being
started.  This rests on two invariants: `Held`, that a claimed key has one
holder, and `Settled`, what the ledger shows of the key in each phase of it.

What a run does beside its entry, and what the definition of the workflow says
beside being run once, may be anything here, and may change.
-/
import RecordFlow.Proofs.Completion
import RecordFlow.Proofs.Selection

namespace RecordFlow

/-- Whether a program has come to its end. -/
def Prog.isOver {α : Type} : Prog α → Bool
  | .call .. => false
  | _ => true

/-- What has come to its end has ended as the code has it. -/
theorem Prog.Leads.ends {φ α : Type} {c : Conduct φ} {ends : φ → Prop} {m : Prog α} {p : φ}
    (leads : m.Leads c (fun _ => ends) p) (isOver : m.isOver = true) : ends p := by
  cases m with
  | done a => exact leads
  | fail e => exact leads
  | call r rest => cases isOver

theorem Prog.isOver_ofExcept {α : Type} (x : Except Failure α) :
    (Prog.ofExcept x).isOver = true := by
  cases x <;> rfl

/-- Whether a task is a run for a key and has not ended. -/
def Task.isRunning (k : RunKey) (t : Task) : Bool :=
  !t.left.isOver && match t.work with
    | .run q => q.key = k
    | .delivery _ => false

/-- How many completed runs of a key the ledger shows. -/
def World.completedRuns (k : RunKey) (w : World) : Nat :=
  w.store.ledger.countP (·.isCompletedFor k)

/-- How many runs for a key have been started and have not ended. -/
def System.unfinishedRuns {α : Type} (k : RunKey) (s : System α) : Nat :=
  s.world.waiting.countP (·.key = k) + s.tasks.countP (·.isRunning k)

/-- Every dispatch has ended or has yet to begin. -/
def System.IsQuiet (s : System (List Uid)) : Prop :=
  ∀ c ∈ s.calls, c.isOver = true ∨ ∃ kind context, c = Dispatch.dispatch kind context

/-- Dispatches are about to begin, and of a key, whose workflow is run once, no run is. -/
structure System.Begins (k : RunKey) (s : System (List Uid)) : Prop where
  calls : ∀ c ∈ s.calls, ∃ kind context, c = Dispatch.dispatch kind context
  tasks : s.tasks = []
  unclaimed : k ∉ s.world.claimed
  waiting : ∀ q ∈ s.world.waiting, q.IsSound ∧ q.key ≠ k
  runsOnce : ∀ d ∈ s.world.store.flags, d.1 = k.workflowId → d.2 = true
  once : (LedgerLine.ids s.world.store.ledger).Nodup
  issued : s.world.IsIssued
  completed : s.world.completedRuns k ≤ 1

/-! ## Counting completed runs -/

section

variable {k : RunKey} {w : World}

theorem completedRuns_pos :
    0 < w.completedRuns k ↔ ∃ l ∈ w.store.ledger, l.isCompletedFor k = true :=
  List.countP_pos_iff

theorem completedRuns_eq_zero : w.completedRuns k = 0 ↔ w.store.Lacks k := by
  rw [World.completedRuns, List.countP_eq_zero]
  simp only [Store.Lacks, Bool.not_eq_true]

/-- There is one completed run at most just when completed runs are told by one identifier. -/
theorem completedRuns_le_one (once : (LedgerLine.ids w.store.ledger).Nodup) :
    w.completedRuns k ≤ 1 ↔ ∀ l ∈ w.store.ledger, ∀ l' ∈ w.store.ledger,
      l.isCompletedFor k = true → l'.isCompletedFor k = true → l.id = l'.id := by
  have ids : (LedgerLine.ids (w.store.ledger.filter (·.isCompletedFor k))).Nodup :=
    once.sublist (List.filter_sublist.map LedgerLine.id)
  have mem (l : LedgerLine) : l ∈ w.store.ledger.filter (·.isCompletedFor k)
      ↔ l ∈ w.store.ledger ∧ l.isCompletedFor k = true := List.mem_filter
  rw [World.completedRuns, List.countP_eq_length_filter]
  generalize w.store.ledger.filter (·.isCompletedFor k) = ls at ids mem
  match ls with
  | [] =>
      refine iff_of_true (Nat.zero_le 1) ?_
      intro l hl _ _ done
      exact absurd ((mem l).mpr ⟨hl, done⟩) List.not_mem_nil
  | [a] =>
      refine iff_of_true (Nat.le_refl 1) ?_
      intro l hl l' hl' done done'
      rw [List.mem_singleton.mp ((mem l).mpr ⟨hl, done⟩),
        List.mem_singleton.mp ((mem l').mpr ⟨hl', done'⟩)]
  | a :: b :: rest =>
      refine iff_of_false (by simp) ?_
      intro single
      have ha := (mem a).mp (by simp)
      have hb := (mem b).mp (by simp)
      have same := single a ha.1 b hb.1 ha.2 hb.2
      have apart : a.id ∉ b.id :: LedgerLine.ids rest := (List.nodup_cons.mp ids).1
      exact apart (same ▸ List.mem_cons_self)

end

/-! ## The invariant -/

/-- Where a workflow is run once, its definitions say so. -/
def declaredOnce (k : RunKey) (d : Uid × Bool) : Prop := d.1 = k.workflowId → d.2 = true

/-- What ties a world to the phases of the work that is under way in it. -/
def Tied (known : Prop) (k : RunKey) (w : World) (ps : List Phase) : Prop :=
  Held (declaredOnce k) k w ps ∧ Settled known k w ps

theorem attends (settings : Settings) (known : Prop) (k : RunKey) :
    System.Attends (duty (declaredOnce k)) Phase.isEnd Phase.suits settings (World.Elsewhere k)
      (Tied known k) where
  answered w before p after r tied allowed := by
    obtain ⟨held, settled⟩ := tied
    have runsOnce : ¬ declaredOnce k (k.workflowId, false) := fun h => Bool.false_ne_true (h rfl)
    exact ⟨expected_answer held.flags r, held.answered allowed runsOnce,
      settled.answered held allowed runsOnce⟩
  suited p r x work := Duty.suits_next x
  begun w ps before work after tied queued := by
    obtain ⟨held, settled⟩ := tied
    have sound (q : QueuedRun) (run : work = .run q) : q.IsSound :=
      held.sound_of_queued (by rw [queued, run]; simp)
    exact ⟨Duty.begins work, Duty.suits_begins work, Duty.leads_program settings sound,
      held.begun queued, settled.begun queued⟩
  changed w w' ps happens tied := by
    obtain ⟨held, settled⟩ := tied
    refine ⟨⟨?_, ?_, happens.runsOnce held.flags⟩, settled.elsewhere happens⟩
    · rw [holders, happens.waiting, happens.claimed]
      exact held.one
    · rw [happens.waiting]
      exact held.sound

section

variable {declared : Uid × Bool → Prop} {k : RunKey} {p : Phase}

/-- A task holds a key just as long as it is a run for it that has not ended. -/
theorem holds_eq_isRunning {t : Task} (suits : p.suits t.work)
    (leads : t.left.Leads (duty declared) (fun _ => Phase.isEnd) p) :
    p.holds k = t.isRunning k := by
  obtain ⟨work, left⟩ := t
  have goesOn (h : ¬ p.isEnd) : left.isOver = false :=
    Bool.not_eq_true _ ▸ fun isOver => h (leads.ends isOver)
  cases work with
  | delivery job =>
      cases p with
      | aside => simp [Phase.holds, Task.isRunning]
      | _ => cases suits
  | run q =>
      cases p with
      | due o =>
          obtain rfl : q.origin = o := suits
          show _ = (!left.isOver && decide (q.key = k))
          rw [goesOn id]
          rfl
      | running o e =>
          obtain rfl : q.origin = o := suits
          show _ = (!left.isOver && decide (q.key = k))
          rw [goesOn id]
          rfl
      | released =>
          cases left with
          | call r rest => cases leads.1
          | _ => simp [Phase.holds, Task.isRunning, Prog.isOver]
      | _ => cases suits

/-- A dispatch that has ended, or has yet to begin, holds no key. -/
theorem holds_of_quiet {c : Prog (List Uid)}
    (leads : c.Leads (duty declared) (fun _ => Phase.isEnd) p)
    (quiet : c.isOver = true ∨ ∃ kind context, c = Dispatch.dispatch kind context) :
    p.holds k = false := by
  rcases quiet with isOver | ⟨kind, context, rfl⟩
  · have ended := leads.ends isOver
    cases p <;> first | rfl | cases ended
  · -- were it held, a failing listing would end the dispatch with the key still held
    have ended := (leads.2 (.error .noSuchOperation) trivial).2 (.ok ()) trivial
    cases p <;> first | rfl | cases ended

end

/-! ## What is so in every state -/

/-- The engine keeps to its code in a system, and the world is tied to the phases of its work. -/
def Watched (known : Prop) (k : RunKey) (s : System (List Uid)) : Prop :=
  System.Attended (duty (declaredOnce k)) Phase.isEnd Phase.suits (Tied known k) s

namespace Watched

variable {settings : Settings} {known : Prop} {k : RunKey} {s t : System (List Uid)}

theorem of_begins (h : s.Begins k) : Watched False k s := by
  have free : (List.replicate s.calls.length Phase.idle).countP (·.holds k) = 0 := by
    rw [List.countP_replicate]
    rfl
  have entries : (List.replicate s.calls.length Phase.idle).filterMap Phase.writing? = [] :=
    List.filterMap_replicate_of_none rfl
  have none : s.world.waiting.countP (·.key = k) = 0 :=
    List.countP_eq_zero.mpr fun q hq => by simpa using (h.waiting q hq).2
  refine System.Attended.of_start .idle ?_ h.tasks ?_
  · intro c hc
    obtain ⟨kind, context, rfl⟩ := h.calls c hc
    exact Duty.leads_dispatch kind context
  · refine ⟨⟨?_, fun q hq => (h.waiting q hq).1, h.runsOnce⟩, h.once, h.issued,
      (completedRuns_le_one h.once).mp h.completed, ?_, ?_, ?_, False.elim⟩
    · rw [holders, free, none, if_neg h.unclaimed]
    · rintro ⟨q, hq, same⟩
      exact absurd same (h.waiting q hq).2
    · intro p hp
      obtain rfl := List.eq_of_mem_replicate hp
      trivial
    · rw [entries]
      exact List.nodup_nil

theorem of_reachable (h : Watched known k s)
    (reachable : System.Reachable settings (World.Elsewhere k) s t) : Watched known k t :=
  System.Attended.of_reachable (attends settings known k) reachable h

/-- The holders of a key are the dispatches that hold it and the runs that have not ended. -/
theorem holders_eq {calls : List (Phase × Prog (List Uid))} {tasks : List (Phase × Task)}
    (htasks : s.tasks = tasks.map Prod.snd)
    (keeps : ∀ x ∈ tasks, x.2.left.Leads (duty (declaredOnce k)) (fun _ => Phase.isEnd) x.1 ∧
      x.1.suits x.2.work) :
    holders k s.world (calls.map Prod.fst ++ tasks.map Prod.fst)
      = (calls.map Prod.fst).countP (·.holds k) + s.unfinishedRuns k := by
  have same : (tasks.map Prod.fst).countP (·.holds k) = s.tasks.countP (·.isRunning k) := by
    rw [htasks, List.countP_map, List.countP_map]
    exact List.countP_congr fun x hx => by
      simp [holds_eq_isRunning (k := k) (keeps x hx).2 (keeps x hx).1]
  rw [holders, List.countP_append, same, System.unfinishedRuns]
  omega

theorem unfinishedRuns_le_one (h : Watched known k s) : s.unfinishedRuns k ≤ 1 := by
  obtain ⟨calls, tasks, _, htasks, _, keeps, held, _⟩ := h
  have one := held.one
  rw [holders_eq htasks keeps] at one
  split at one <;> omega

theorem completedRuns_le_one (h : Watched known k s) : s.world.completedRuns k ≤ 1 := by
  obtain ⟨_, _, _, _, _, _, _, settled⟩ := h
  exact (RecordFlow.completedRuns_le_one settled.once).mpr settled.single

/-- What is completed now is known to be completed from now on. -/
theorem know (h : Watched known k s) (completed : 0 < s.world.completedRuns k) :
    Watched True k s := by
  obtain ⟨calls, tasks, hcalls, htasks, leads, keeps, held, settled⟩ := h
  exact ⟨calls, tasks, hcalls, htasks, leads, keeps, held,
    { settled with stays := fun _ => completedRuns_pos.mp completed }⟩

theorem completedRuns_pos (h : Watched True k s) : 0 < s.world.completedRuns k := by
  obtain ⟨_, _, _, _, _, _, _, settled⟩ := h
  exact RecordFlow.completedRuns_pos.mpr (settled.stays trivial)

theorem none_waits (h : Watched True k s) : ∀ q ∈ s.world.waiting, q.key ≠ k := by
  intro q hq same
  have completed := h.completedRuns_pos
  obtain ⟨_, _, _, _, _, _, _, settled⟩ := h
  rw [completedRuns_eq_zero.mpr (settled.waits ⟨q, hq, same⟩)] at completed
  cases completed

/-- Where no dispatch is under way, a key is claimed just while a run has not ended. -/
theorem claimed_iff (h : Watched known k s) (quiet : s.IsQuiet) :
    k ∈ s.world.claimed ↔ 0 < s.unfinishedRuns k := by
  obtain ⟨calls, tasks, hcalls, htasks, leads, keeps, held, _⟩ := h
  have free : (calls.map Prod.fst).countP (·.holds k) = 0 := by
    rw [List.countP_map, List.countP_eq_zero]
    intro x hx
    have here := quiet x.2 (hcalls ▸ List.mem_map_of_mem hx)
    simp [holds_of_quiet (k := k) (leads x hx) here]
  have one := held.one
  rw [holders_eq htasks keeps, free] at one
  by_cases claimed : k ∈ s.world.claimed
  · rw [if_pos claimed] at one
    exact iff_of_true claimed (by omega)
  · rw [if_neg claimed] at one
    exact iff_of_false claimed (by omega)

end Watched

/-! ## The theorem -/

/-- However dispatches and the background interleave, and whatever happens elsewhere meanwhile: of
a key whose workflow is run once there is never more than one run that has not ended, nor more
than one that is completed; once one is completed it stays so, and no run is started any more; and
while none is completed, a dispatch to which the workflow is offered starts it as soon as nothing
else is at it, however its runs before may have failed. -/
theorem run_once_exclusive (settings : Settings) {k : RunKey} {start s : System (List Uid)}
    (begins : start.Begins k)
    (reachable : System.Reachable settings (World.Elsewhere k) start s) :
    s.unfinishedRuns k ≤ 1 ∧ s.world.completedRuns k ≤ 1 ∧
      (0 < s.world.completedRuns k →
        ∀ t, System.Reachable settings (World.Elsewhere k) s t →
          0 < t.world.completedRuns k ∧ ∀ q ∈ t.world.waiting, q.key ≠ k) ∧
      (s.world.completedRuns k = 0 → s.unfinishedRuns k = 0 → s.IsQuiet →
        ∀ kind context v, Dispatch.keyFor v.record context = k →
          Dispatch.Offers kind context s.world v →
            ∃ ids w', (Dispatch.dispatch kind context).run s.world = (.ok ids, w') ∧
              v.record.id ∈ ids ∧ .run (Dispatch.runOf kind context v) ∈ w'.queue) := by
  have watched := (Watched.of_begins begins).of_reachable reachable
  refine ⟨watched.unfinishedRuns_le_one, watched.completedRuns_le_one, ?_, ?_⟩
  · intro completed t later
    have still := (watched.know completed).of_reachable later
    exact ⟨still.completedRuns_pos, still.none_waits⟩
  · rintro none ended quiet kind context v rfl offers
    refine offers.started ?_
    have lacks := Store.lacks_iff.mpr (completedRuns_eq_zero.mp none)
    have unclaimed := mt (watched.claimed_iff quiet).mp (by omega)
    simp [Dispatch.isFree, unclaimed, lacks]

/-- A workflow that greets every new deal once. -/
def greeting : Filed Workflow := Store.copy {
  id := ⟨3⟩
  entityType := "deal"
  status := .known .active
  runOnce := true
  triggers := [{ kind := .known .recordCreated }] }

/-- A new deal. -/
def newDeal : Context := { entityType := "deal", entityId := "d" }

/-- A store with the greeting, and with a run of it that failed. -/
def greetedStore : MemoryStore where
  workflows := [greeting]
  executions := [{
    id := .issued 1
    workflowId := ⟨3⟩
    trigger := .known .recordCreated
    entityType := "deal"
    entityId := "d"
    status := .known .failed
    startedAt := default }]

/-- Two dispatches for a deal whose greeting has failed before. -/
def greetedTwice : System (List Uid) where
  world := { store := .memory greetedStore, issued := 1 }
  calls := [Dispatch.dispatch (.known .recordCreated) newDeal,
    Dispatch.dispatch (.known .recordCreated) newDeal]
  tasks := []

theorem greetedTwice_begins :
    greetedTwice.Begins (Dispatch.keyFor greeting.record newDeal) := by
  refine ⟨?_, rfl, List.not_mem_nil, fun _ => (nomatch ·), by decide, by decide, ?_, by decide⟩
  · intro c hc
    refine ⟨.known .recordCreated, newDeal, ?_⟩
    simpa [greetedTwice] using hc
  · intro l hl n hn
    obtain rfl := List.mem_singleton.mp hl
    exact Nat.le_of_eq (RecordId.issued.inj hn).symm

theorem greetedTwice_isQuiet : greetedTwice.IsQuiet :=
  fun c hc => .inr (greetedTwice_begins.calls c hc)

theorem greeting_started_after_failure :
    greetedTwice.Begins (Dispatch.keyFor greeting.record newDeal) ∧
      System.Reachable {} (World.Elsewhere (Dispatch.keyFor greeting.record newDeal))
        greetedTwice greetedTwice ∧
      Dispatch.Offers (.known .recordCreated) newDeal greetedTwice.world greeting ∧
      ∃ ids w', (Dispatch.dispatch (.known .recordCreated) newDeal).run greetedTwice.world
        = (.ok ids, w') ∧ greeting.record.id ∈ ids := by
  have offers : Dispatch.Offers (.known .recordCreated) newDeal greetedTwice.world greeting := by
    have listed : greetedStore.listActive newDeal.entityType (.known .recordCreated)
        = [greeting] := Dispatch.listActive_single rfl rfl rfl
    refine ⟨List.not_mem_nil, List.not_mem_nil, ⟨[greeting], congrArg Except.ok listed,
      List.mem_singleton_self _, by decide, ?_⟩, rfl⟩
    intro u hu
    obtain rfl := List.mem_singleton.mp hu
    exact ⟨true, rfl⟩
  obtain ⟨_, _, _, starts⟩ := run_once_exclusive {} greetedTwice_begins .refl
  obtain ⟨ids, w', ran, mem, _⟩ :=
    starts (by decide) (by decide) greetedTwice_isQuiet _ _ _ rfl offers
  exact ⟨greetedTwice_begins, .refl, offers, ids, w', ran, mem⟩

end RecordFlow
