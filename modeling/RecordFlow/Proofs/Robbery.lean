/-
# Robbery — how a claimed key is lost

A run that was started while its workflow was not yet to be run once gives back
a key that it never claimed.  If a dispatch has claimed the key meanwhile, the
claim is lost, the run that it was made for goes on, and the next dispatch may
claim the key again for another.

Without a robbery no claim is lost: `claim_kept_unless_robbed`.  As long as a
key is not robbed, it stays claimed until the run has ended for which it was
claimed, however dispatches, runs and changes of the definitions interleave;
and with every robbery there may be one more such run at a time.  That it comes
to this is shown of a greeting, `greeting_robbed`.
-/
import RecordFlow.Proofs.Custody
import RecordFlow.Proofs.Entries
import RecordFlow.Proofs.Starting

namespace RecordFlow

/-! ## Keys in a system -/

/-- How many runs of a key have been started under a claim and have not ended. -/
def System.claimants {α : Type} (k : RunKey) (s : System α) : Nat :=
  s.world.waiting.countP (·.isOf true k) +
    s.tasks.countP fun t => t.work.isOf true k && !t.left.isOver

/-- A key is robbed: a run that was started without a claim gives it back while it is claimed. -/
inductive System.Robs {α : Type} (k : RunKey) : System α → System α → Prop where
  | robs (w : World) (calls : List (Prog α)) (before after : List Task) (work : Background)
      (rest : Except Failure Unit → Prog Unit) (free : work.isOf false k = true)
      (claimed : k ∈ w.claimed) :
      Robs k ⟨w, calls, before ++ ⟨work, .call (.release k) rest⟩ :: after⟩
        ⟨(w.answer (.release k)).2, calls,
          before ++ ⟨work, rest (w.answer (.release k)).1⟩ :: after⟩

/-- The states that a system can come to, and how often a key was robbed on the way. -/
inductive System.Reaches {α : Type} (settings : Settings) (k : RunKey) (start : System α) :
    Nat → System α → Prop where
  | refl : Reaches settings k start 0 start
  | step {n : Nat} {s t : System α} : Reaches settings k start n s →
      Step settings World.AmidKeys s t → ¬ Robs k s t → Reaches settings k start n t
  | robbed {n : Nat} {s t : System α} : Reaches settings k start n s →
      Robs k s t → Reaches settings k start (n + 1) t

/-- Dispatches are about to begin, and a key is not claimed, nor is there a run that would have
claimed it. -/
structure System.LeavesFree (k : RunKey) (s : System (List Uid)) : Prop where
  calls : ∀ c ∈ s.calls, ∃ kind context, c = Dispatch.dispatch kind context
  tasks : s.tasks = []
  unclaimed : k ∉ s.world.claimed
  waiting : ∀ q ∈ s.world.waiting, q.isOf true k = false

/-! ## Systems in which a key is kept -/

namespace System

variable {settings : Settings} {k : RunKey} {n : Nat} {start s t : System (List Uid)}

/-- The engine keeps to its code, the calls are dispatches, and a key is kept. -/
def Guards (k : RunKey) (n : Nat) (s : System (List Uid)) : Prop :=
  Attended custody Custody.isEnd Custody.suits
    (fun w ps => Custody.Kept k n w ps ∧ Fronted Custody.IsDispatching s.calls.length ps) s

theorem Guards.of_leavesFree (h : s.LeavesFree k) : s.Guards k 0 := by
  have holding : (List.replicate s.calls.length Custody.free).countP (·.holds k) = 0 := by
    rw [List.countP_replicate]
    rfl
  have waiting : s.world.waiting.countP (·.isOf true k) = 0 :=
    List.countP_eq_zero.mpr fun q hq => by simp [h.waiting q hq]
  refine Attended.of_start .free ?_ h.tasks ⟨⟨fun claimed => absurd claimed h.unclaimed, ?_⟩, ?_⟩
  · intro c hc
    obtain ⟨kind, context, rfl⟩ := h.calls c hc
    exact Custody.leads_dispatch kind context
  · rw [Custody.keepers, holding, waiting]
    exact Nat.zero_le _
  · refine ⟨by simp, ?_⟩
    intro p hp
    obtain rfl := List.eq_of_mem_replicate (List.mem_of_mem_take hp)
    trivial

/-- A step that is no robbery keeps a key as it was kept. -/
theorem Guards.step (h : s.Guards k n) (move : Step settings World.AmidKeys s t)
    (honest : ¬ Robs k s t) : t.Guards k n := by
  cases move with
  | call w before after tasks r rest ready =>
      obtain ⟨front, p, back, length, ⟨kept, fronted⟩, allowed, onward⟩ := h.atCall
      have dispatching : p.IsDispatching := fronted.of_front (by simp [length])
      refine onward _ (Custody.expected_answer w r) ⟨kept.answered allowed ?_, ?_⟩
      · rintro ⟨rfl, _⟩
        exact dispatching
      · simpa using fronted.change (Custody.isDispatching_next _ allowed)
  | task w calls before after work r rest ready =>
      obtain ⟨front, p, back, ⟨kept, fronted⟩, allowed, suited, onward⟩ := h.atTask
      refine onward _ (Custody.expected_answer w r) (Custody.suits_next _ allowed suited)
        ⟨kept.answered allowed ?_, fronted.change (Custody.isDispatching_next _ allowed)⟩
      -- what gives back a claimed key in this phase is a run that was started without a claim
      rintro ⟨rfl, rfl, claimed⟩
      exact honest (.robs w calls before after work rest (Custody.isOf_of_suits suited) claimed)
  | «begin» w calls tasks before after work queued =>
      obtain ⟨ps, ⟨kept, fronted⟩, onward⟩ := h.atBegin { w with queue := before ++ after } work
      exact onward _ (Custody.begins work) (Custody.suits_begins work)
        (Custody.leads_program settings work) ⟨kept.begun queued, fronted.append _⟩
  | change w w' calls tasks allowed =>
      obtain ⟨ps, ⟨kept, fronted⟩, onward⟩ := h.atChange w'
      exact onward _ ⟨kept.of_amidKeys allowed, fronted⟩

/-- A robbery leaves one more that keeps a key which is not claimed for it. -/
theorem Guards.robbed (h : s.Guards k n) (robs : Robs k s t) : t.Guards k (n + 1) := by
  cases robs with
  | robs w calls before after work rest free claimed =>
      obtain ⟨front, p, back, ⟨kept, fronted⟩, allowed, suited, onward⟩ := h.atTask
      obtain rfl := Custody.running_of_isOf allowed suited free
      exact onward _ trivial (Custody.suits_next _ allowed suited)
        ⟨kept.robbed (by simp [Custody.holds]) rfl,
          fronted.change (Custody.isDispatching_next _ allowed)⟩

theorem Guards.of_reaches (h : start.Guards k 0) (reaches : Reaches settings k start n s) :
    s.Guards k n := by
  induction reaches with
  | refl => exact h
  | step _ move honest ih => exact ih.step move honest
  | robbed _ robs ih => exact ih.robbed robs

/-! ### What is seen of it -/

/-- Those that keep a key are the dispatches that hold it and the runs that have claimed it and
have not ended. -/
theorem keepers_eq {calls : List (Custody × Prog (List Uid))} {tasks : List (Custody × Task)}
    (htasks : s.tasks = tasks.map Prod.snd)
    (keeps : ∀ x ∈ tasks, x.2.left.Leads custody (fun _ => Custody.isEnd) x.1 ∧
      x.1.suits x.2.work) :
    Custody.keepers k s.world (calls.map Prod.fst ++ tasks.map Prod.fst)
      = (calls.map Prod.fst).countP (·.holds k) + s.claimants k := by
  have same : (tasks.map Prod.fst).countP (·.holds k)
      = s.tasks.countP fun t => t.work.isOf true k && !t.left.isOver := by
    rw [htasks, List.countP_map, List.countP_map]
    exact List.countP_congr fun x hx => by
      simp [Custody.holds_eq (k := k) (keeps x hx).2 (keeps x hx).1]
  rw [Custody.keepers, List.countP_append, same, claimants]
  omega

theorem Guards.claimants_le (h : s.Guards k n) :
    s.claimants k ≤ n + if k ∈ s.world.claimed then 1 else 0 := by
  obtain ⟨calls, tasks, _, htasks, _, keeps, kept, _⟩ := h
  have bound := kept.bound
  rw [keepers_eq htasks keeps] at bound
  omega

theorem Guards.claimants_pos (h : s.Guards k n) (quiet : s.IsQuiet)
    (claimed : k ∈ s.world.claimed) :
    0 < s.claimants k := by
  obtain ⟨calls, tasks, hcalls, htasks, leads, keeps, kept, fronted⟩ := h
  have dispatching : ∀ p ∈ calls.map Prod.fst, p.IsDispatching := by
    rw [hcalls, List.length_map, ← List.length_map (f := Prod.fst)] at fronted
    exact fronted.forall_mem
  have free : (calls.map Prod.fst).countP (·.holds k) = 0 := by
    rw [List.countP_map, List.countP_eq_zero]
    intro x hx
    have here := quiet x.2 (hcalls ▸ List.mem_map_of_mem hx)
    simp [Custody.holds_of_quiet (k := k) (leads x hx)
      (dispatching x.1 (List.mem_map_of_mem hx)) here]
  have held := kept.held claimed
  rwa [keepers_eq htasks keeps, free, Nat.zero_add] at held

/-- A robbery is a step; it leaves a key unclaimed and every run that has claimed it under way. -/
theorem Robs.loses {s t : System (List Uid)} (robs : Robs k s t) :
    Step settings World.AmidKeys s t ∧ k ∉ t.world.claimed ∧ t.claimants k = s.claimants k := by
  cases robs with
  | robs w calls before after work rest free claimed =>
      refine ⟨.task w calls before after work (.release k) rest rfl, by simp, ?_⟩
      have other : work.isOf true k = false := by
        cases work with
        | delivery job => cases free
        | run q =>
            simp only [Background.isOf, QueuedRun.isOf, Bool.and_eq_true, decide_eq_true_eq] at free
            simp [Background.isOf, QueuedRun.isOf, free.1]
      have waits : (w.answer (.release k)).2.waiting = w.waiting := rfl
      simp only [claimants, waits, List.countP_append, List.countP_cons, other, Bool.false_and]

/-- No state that can be come to is left out. -/
theorem reachable_iff_reaches :
    Reachable settings World.AmidKeys start s ↔ ∃ n, Reaches settings k start n s := by
  constructor
  · intro reachable
    induction reachable with
    | refl => exact ⟨0, .refl⟩
    | step _ move ih =>
        obtain ⟨n, reaches⟩ := ih
        rcases Classical.em (Robs k _ _) with robs | honest
        · exact ⟨n + 1, reaches.robbed robs⟩
        · exact ⟨n, reaches.step move honest⟩
  · rintro ⟨n, reaches⟩
    induction reaches with
    | refl => exact .refl
    | step _ move _ ih => exact ih.step move
    | robbed _ robs ih => exact ih.step robs.loses.1

/-! ## The theorem -/

/-- However dispatches, runs and changes of the definitions interleave: as long as a key is not
robbed, it stays claimed until the run that claimed it has ended, and there is no other such run
beside it; with every robbery there may be one more at a time.  A key that stays claimed is kept
for a run.  A robbery, which any run that was started without a claim may come to, takes a claim
away from a run that goes on. -/
theorem claim_kept_unless_robbed (settings : Settings) {k : RunKey} {start s : System (List Uid)}
    (leavesFree : start.LeavesFree k)
    (reachable : Reachable settings World.AmidKeys start s) :
    (∃ n, Reaches settings k start n s) ∧
      (∀ n, Reaches settings k start n s →
        (n = 0 → 0 < s.claimants k → k ∈ s.world.claimed ∧ s.claimants k = 1) ∧
          s.claimants k ≤ n + if k ∈ s.world.claimed then 1 else 0) ∧
      (s.IsQuiet → k ∈ s.world.claimed → 0 < s.claimants k) ∧
      ∀ t, Robs k s t →
        Step settings World.AmidKeys s t ∧ k ∉ t.world.claimed ∧ t.claimants k = s.claimants k := by
  obtain ⟨m, reaches⟩ := reachable_iff_reaches.mp reachable
  have guards (n : Nat) (reaches : Reaches settings k start n s) : s.Guards k n :=
    (Guards.of_leavesFree leavesFree).of_reaches reaches
  refine ⟨⟨m, reaches⟩, ?_, (guards m reaches).claimants_pos, fun t robs => robs.loses⟩
  intro n reaches
  have bound := (guards n reaches).claimants_le
  refine ⟨?_, bound⟩
  rintro rfl some
  by_cases claimed : k ∈ s.world.claimed
  · rw [if_pos claimed] at bound
    exact ⟨claimed, by omega⟩
  · rw [if_neg claimed] at bound
    omega

/-! ### A key that is robbed -/

/-- A run that robs a key is about to give it back. -/
theorem Robs.asks {s t : System (List Uid)} (robs : Robs k s t) :
    ∃ task ∈ s.tasks, ∃ rest, task.left = .call (.release k) rest := by
  cases robs with
  | robs w calls before after work rest free claimed =>
      exact ⟨⟨work, .call (.release k) rest⟩, by simp, rest, rfl⟩

section

variable {w : World} {calls : List (Prog (List Uid))} {work : Background}

/-- Where the only task has something else to ask, no step is a robbery. -/
theorem not_robs_of_asks {r : Request} {rest : Except Failure r.Answer → Prog Unit}
    (other : r ≠ .release k) : ¬ Robs k ⟨w, calls, [⟨work, .call r rest⟩]⟩ t := by
  intro robs
  obtain ⟨task, there, rest', asks⟩ := robs.asks
  obtain rfl := List.mem_singleton.mp there
  exact other (Prog.call.inj asks).1

/-- A run whose entry cannot be opened comes to give its key back. -/
theorem Reaches.runUnopened {w' : World} {q : QueuedRun} {f : Failure}
    (h : Reaches settings k start n
      ⟨w, calls, [⟨.run q, Dispatch.background settings q⟩]⟩)
    (refused : w.answer (.openExecution (Execution.opening q.workflow.record q.trigger q.context
      none w.clock)) = (.error f, w')) :
    ∃ logs, Reaches settings k start n
      ⟨{ w' with logs }, calls, [⟨.run q, Prog.ask (.release q.key)⟩]⟩ := by
  have timed := h.step (.task w calls [] [] (.run q) .now _ rfl) (not_robs_of_asks nofun)
  have opened := timed.step (.task w calls [] [] (.run q) (.openExecution _) _ rfl)
    (not_robs_of_asks nofun)
  rw [refused] at opened
  exact ⟨_, opened.step (.task w' calls [] [] (.run q) (.log _) _ rfl) (not_robs_of_asks nofun)⟩

/-- Where no task is about to give a key back, a dispatch may be let run to its end; it starts the
one workflow that there is, if it is fired and free to run. -/
theorem Reaches.runDispatch {v : Filed Workflow} {kind : Open TriggerKind} {context : Context}
    (before after : List (Prog (List Uid))) {tasks : List Task}
    (h : Reaches settings k start n
      ⟨w, before ++ Dispatch.dispatch kind context :: after, tasks⟩)
    (busy : ∀ task ∈ tasks, ∀ rest, task.left ≠ .call (.release k) rest)
    (memory : w.store = .memory { workflows := [v] })
    (listing : w.Spares "store.list_active_workflows")
    (ledger : w.Spares "store.has_completed_execution")
    (placed : v.record.runOrder.isPlaced = true)
    (candidate : MemoryStore.isCandidate context.entityType kind v.record = true)
    (told : Dispatch.tells kind context v = true)
    (selected : Dispatch.selects kind context w v = true) :
    ∃ c logs, Reaches settings k start n
      ⟨Dispatch.started kind context w [v] logs, before ++ c :: after, tasks⟩ := by
  have listed : w.store.listActive context.entityType kind = .ok [v] := by
    rw [memory]
    exact congrArg Except.ok (Dispatch.listActive_single rfl placed candidate)
  obtain ⟨logs, ran⟩ := Dispatch.dispatch_run listing ledger listed (List.nodup_singleton _)
  have chosen : Dispatch.chosen kind context w [v] = [v] := by
    simp [Dispatch.chosen, told, selected]
  have ended : Reaches settings k start n ⟨_, before ++ _ :: after, tasks⟩ :=
    runCall_keeps ?_ before after h ((Keeping.matches_dispatch kind context).isFree ?_ w)
  · rw [ran, chosen] at ended
    exact ⟨_, logs, ended⟩
  · intro w before after r rest ready reached
    refine reached.step (.call w before after tasks r rest ready) fun robs => ?_
    obtain ⟨task, there, rest, asks⟩ := robs.asks
    exact busy task there rest asks
  · intro r matching w
    cases r <;> first | rfl | cases matching

end

/-- The key of the greeting for the new deal. -/
def greetingKey : RunKey := Dispatch.keyFor greeting.record newDeal

/-- A dispatch for the new deal. -/
def greets : Prog (List Uid) := Dispatch.dispatch (.known .recordCreated) newDeal

/-- A run of the greeting that was started before the greeting was to be run once. -/
def freeRun : QueuedRun := Dispatch.runOf (.known .recordCreated) newDeal Dispatch.freeGreeting

/-- The next entry cannot be written. -/
def outage : Fault := { site := "store.create_execution", failure := .reported "OSError" "full" }

/-- Three dispatches for a new deal, of which the first finds the greeting as it was before it was
to be run once. -/
def greetedThrice : System (List Uid) where
  world := { store := .memory { workflows := [Dispatch.freeGreeting] }, faults := [outage] }
  calls := [greets, greets, greets]
  tasks := []

theorem greetedThrice_leavesFree : greetedThrice.LeavesFree greetingKey where
  calls c hc := by
    refine ⟨.known .recordCreated, newDeal, ?_⟩
    simpa [greetedThrice, greets] using hc
  tasks := rfl
  unclaimed := List.not_mem_nil
  waiting _ there := nomatch there

/-- A world in which the greeting is to be run once. -/
def regreeted (claimed : List RunKey) (queue : List Background) (faults : List Fault)
    (logs : List LogEntry) : World :=
  { store := .memory { workflows := [greeting] }, claimed, queue, faults, logs }

/-- A run of the greeting that was started under a claim. -/
def onceRun : QueuedRun := Dispatch.runOf (.known .recordCreated) newDeal greeting

theorem outage_spares {site : String} (other : site ≠ "store.create_execution") :
    site ∉ [outage].map Fault.site := by
  simpa [outage] using other

/-- The first dispatch starts a run, and while it is under way the greeting becomes one that is
run once, and the second dispatch claims its key. -/
theorem greetedThrice_claims :
    ∃ a b logs, Reaches {} greetingKey greetedThrice 0
      ⟨regreeted [greetingKey] [.run onceRun] [outage] logs, [a, b, greets],
        [⟨.run freeRun, Dispatch.background {} freeRun⟩]⟩ := by
  have waits : Reaches {} greetingKey greetedThrice 0 greetedThrice := .refl
  obtain ⟨a, logs, first⟩ := waits.runDispatch (v := Dispatch.freeGreeting) [] _ (fun _ => nofun)
    rfl (outage_spares (by decide)) (outage_spares (by decide)) rfl rfl rfl rfl
  have begun := first.step (.begin _ _ _ [] [] (.run freeRun) rfl) fun robs => by
    obtain ⟨_, there, _⟩ := robs.asks
    cases there
  have changed := begun.step (.change _ (regreeted [] [] [outage] logs) _ _ ⟨rfl, rfl⟩)
    (not_robs_of_asks (r := .now) nofun)
  have busy : ∀ task ∈ [Task.mk (.run freeRun) (Dispatch.background {} freeRun)], ∀ rest,
      task.left ≠ .call (.release greetingKey) rest := by
    intro task there rest asks
    obtain rfl := List.mem_singleton.mp there
    nomatch (Prog.call.inj (asks : Prog.call .now _ = _)).1
  obtain ⟨b, logs, second⟩ := changed.runDispatch (v := greeting) [a] _ busy rfl
    (outage_spares (by decide)) (outage_spares (by decide)) rfl rfl rfl rfl
  exact ⟨a, b, logs, second⟩

/-- The run that is under way cannot open its entry, and is about to give back a key that it has
not claimed. -/
theorem greetedThrice_asks :
    ∃ a b logs, Reaches {} greetingKey greetedThrice 0
      ⟨regreeted [greetingKey] [.run onceRun] [outage.spent] logs, [a, b, greets],
        [⟨.run freeRun, Prog.ask (.release greetingKey)⟩]⟩ := by
  obtain ⟨a, b, logs, claims⟩ := greetedThrice_claims
  have refused : (regreeted [greetingKey] [.run onceRun] [outage] logs).answer
      (.openExecution (Execution.opening freeRun.workflow.record freeRun.trigger freeRun.context
        none default)) =
      (.error outage.failure, regreeted [greetingKey] [.run onceRun] [outage.spent] logs) := rfl
  obtain ⟨logs, asks⟩ := claims.runUnopened refused
  exact ⟨a, b, logs, asks⟩

/-- The key is claimed for one run; another one, which was started without a claim, takes it away;
and while the first goes on, a third is started under a claim beside it. -/
theorem greeting_robbed :
    greetedThrice.LeavesFree greetingKey ∧
      ∃ s t u, Reaches {} greetingKey greetedThrice 0 s ∧
        greetingKey ∈ s.world.claimed ∧ s.claimants greetingKey = 1 ∧
        Robs greetingKey s t ∧ greetingKey ∉ t.world.claimed ∧ t.claimants greetingKey = 1 ∧
        Reaches {} greetingKey greetedThrice 1 u ∧ u.claimants greetingKey = 2 := by
  obtain ⟨a, b, logs, asks⟩ := greetedThrice_asks
  obtain ⟨_, kept, _, loses⟩ := claim_kept_unless_robbed {} greetedThrice_leavesFree
    (reachable_iff_reaches.mpr ⟨0, asks⟩)
  obtain ⟨claimed, alone⟩ := (kept 0 asks).1 rfl Nat.one_pos
  have robs : Robs greetingKey
      ⟨regreeted [greetingKey] [.run onceRun] [outage.spent] logs, [a, b, greets],
        [⟨.run freeRun, Prog.ask (.release greetingKey)⟩]⟩
      ⟨regreeted [] [.run onceRun] [outage.spent] logs, [a, b, greets],
        [⟨.run freeRun, .done ()⟩]⟩ :=
    .robs _ _ [] [] (.run freeRun) _ rfl claimed
  obtain ⟨_, lost, goesOn⟩ := loses _ robs
  obtain ⟨c, logs, again⟩ := (asks.robbed robs).runDispatch (v := greeting) [a, b] [] (by simp) rfl
    (outage_spares (by decide)) (outage_spares (by decide)) rfl rfl rfl rfl
  exact ⟨greetedThrice_leavesFree, _, _, _, asks, claimed, alone, robs, lost,
    goesOn.trans alone, again, rfl⟩

end System
end RecordFlow
