/-
# Rounds — how the background is carried to its end

The background is carried to its end in rounds, in which every task has its
turn.  This schedule is one of the interleavings, `drain_keeps`: what no step of
a task breaks, and what is not broken when work begins, holds when it has come
to its end.  And as long as there is a permit it does come to its end, with
nothing left that waits or that has begun: a run is done in its first turn, and
a delivery lets the others go on no more often than it has attempts, and once
again if it crashes.
-/
import RecordFlow.Proofs.Permits

namespace RecordFlow

open Prog (ask leads_bind leads_ask leads_ask_bind leads_attempt leads_ofExcept only_bind only_ask)

/-! ## How often a delivery lets the others go on -/

/-- The code by which a program lets the others go on so many times at most. -/
def pacing : Conduct Nat where
  may n r := Prog.yields r = true → 0 < n
  expects _ _ := True
  next n r _ := if Prog.yields r then n - 1 else n

namespace Pacing

theorem idle_of_steady {n : Nat} {r : Request} (steady : Prog.yields r = false) :
    pacing.may n r ∧ ∀ x, pacing.next n r x = n := by
  simp [pacing, steady]

/-- What never lets the others go on. -/
theorem leads_steady {α : Type} {m : Prog α} {n : Nat} {wanted : Except Failure α → Nat → Prop}
    (h : m.Only fun r => Prog.yields r = false) (ends : ∀ x, wanted x n) :
    m.Leads pacing wanted n :=
  h.leads (fun _ steady => idle_of_steady steady) ends

theorem steady_giveUp (d : Delivery) : (Deliver.giveUp d).Only fun r => Prog.yields r = false := by
  refine only_bind (only_ask rfl) fun now => only_bind (only_ask rfl) fun _ => ?_
  exact only_bind (only_ask rfl) fun _ => only_ask rfl

theorem steady_arrive (d : Delivery) (status : Int) :
    (Deliver.arrive d status).Only fun r => Prog.yields r = false := by
  refine only_bind (only_ask rfl) fun now => only_bind (only_ask rfl) fun _ => ?_
  exact only_bind (only_ask rfl) fun _ => only_ask rfl

theorem steady_exchange (job : QueuedDelivery) (d : Delivery) :
    (Deliver.exchange job d).Only fun r => Prog.yields r = false :=
  only_bind (only_ask rfl) fun _ => only_ask rfl

/-- How the wait for the next attempt may end: the others have gone on once, or it has failed. -/
def WaitEnds (n : Nat) : Except Failure Unit → Nat → Prop
  | .ok _, p => p = n + 1
  | .error _, p => 0 < p

theorem leads_waitForNext (settings : Settings) (d : Delivery) (attempt n : Nat) :
    (Deliver.waitForNext settings d attempt).Leads pacing (WaitEnds n) (n + 2) := by
  have positive : 0 < n + 2 := Nat.succ_pos (n + 1)
  refine leads_ask_bind nofun (fun _ _ => positive) fun _ _ => ?_
  refine leads_ask_bind nofun (fun _ _ => positive) fun _ _ => ?_
  refine leads_ask_bind nofun (fun _ _ => positive) fun _ _ => ?_
  refine leads_bind (leads_ofExcept ?_)
  cases settings.pauseAfter attempt with
  | error f => exact positive
  | ok delay =>
      refine leads_ask (fun _ => positive) ?_
      intro x _
      cases x with
      | ok _ => exact rfl
      | error f => exact Nat.succ_pos n

/-- With so many attempts left the others go on less often than that, and once more may be let. -/
theorem leads_attempts (settings : Settings) (job : QueuedDelivery) (d : Delivery)
    (attempt left : Nat) :
    (Deliver.attempts settings job d attempt left).Leads pacing (fun _ p => 0 < p) (left + 1) := by
  induction left generalizing d attempt with
  | zero => exact leads_steady (steady_giveUp d) fun _ => Nat.one_pos
  | succ left ih =>
      have positive : 0 < left + 2 := Nat.succ_pos (left + 1)
      refine leads_ask_bind nofun (fun _ _ => positive) fun _ _ => ?_
      refine leads_bind (leads_steady (steady_exchange job _) ?_)
      intro x
      cases x with
      | error f => exact positive
      | ok outcome =>
          cases delivers : Deliver.delivering? outcome with
          | some status =>
              simp only [Prog.Onward, delivers]
              exact leads_steady (steady_arrive _ status) fun _ => positive
          | none =>
              simp only [Prog.Onward, delivers]
              refine leads_bind (leads_ofExcept ?_)
              cases Deliver.trace (d.attempting attempt) outcome with
              | error f => exact positive
              | ok missed =>
                  show Prog.Leads _ _ _ (if _ then _ else _)
                  split
                  · refine leads_bind ((leads_waitForNext settings missed attempt left).mono ?_)
                    intro x p ended
                    cases x with
                    | error f => exact ended
                    | ok _ =>
                        obtain rfl : p = left + 1 := ended
                        exact ih _ _
                  · exact leads_steady (steady_giveUp missed) fun _ => positive

/-- How often a delivery lets the others go on: before every attempt but the first, and before its
crash is told of. -/
def yieldings (settings : Settings) : Nat := (settings.webhookMaxRetries + 1).toNat + 1

theorem leads_background (settings : Settings) (job : QueuedDelivery) :
    (Deliver.background settings job).Leads pacing (fun _ _ => True) (yieldings settings) := by
  refine leads_bind (leads_attempt ((leads_attempts settings job _ 1 _).mono ?_))
  intro x p positive
  cases x with
  | ok _ => trivial
  | error f =>
      refine leads_ask_bind (fun _ => positive) (fun _ _ => trivial) fun _ _ => ?_
      exact leads_ask nofun fun _ _ => trivial

end Pacing

/-! ## Turns -/

/-- What a run in the background asks for: what a run may, and to give its key back. -/
def Request.isSwift : Request → Bool
  | release _ => true
  | r => r.isBrisk

theorem Request.isSwift_of_isBrisk {r : Request} (h : r.isBrisk = true) : r.isSwift = true := by
  cases r <;> first | exact h | rfl

theorem Dispatch.swift_background (settings : Settings) (q : QueuedRun) :
    (Dispatch.background settings q).Only fun r => r.isSwift = true := by
  have ran := (Run.brisk_run settings q.workflow.record q.trigger q.context none).mono fun _ =>
    Request.isSwift_of_isBrisk
  refine only_bind (Prog.only_attempt ran) fun x => ?_
  cases x with
  | ok e => exact only_ask rfl
  | error f => exact only_bind (only_ask rfl) fun _ => only_ask rfl

/-- In how many rounds a task is done at most, with all that it starts. -/
inductive Lasts (settings : Settings) : Nat → Prog Unit → Prop where
  | run {n : Nat} {m : Prog Unit} (swift : m.Only fun r => r.isSwift = true)
      (room : Pacing.yieldings settings + 1 < n) : Lasts settings n m
  | delivery {n k : Nat} {m : Prog Unit}
      (passes : m.Leads passing (fun _ => Passage.isEnd) .outside)
      (paces : m.Leads pacing (fun _ _ => True) k) (room : k < n) : Lasts settings n m

namespace World

/-- Nothing is in flight, and so many permits are free. -/
structure IsAtEase (permits : Nat) (w : World) : Prop where
  permits : w.permits = permits
  inFlight : w.inFlight = 0

theorem IsAtEase.of_gate {permits : Nat} {w w' : World} (h : w.IsAtEase permits)
    (gate : w'.gate = w.gate) : w'.IsAtEase permits :=
  ⟨(congrArg (fun gate => gate.2.1) gate).trans h.permits,
    (congrArg (fun gate => gate.2.2) gate).trans h.inFlight⟩

theorem pendingRuns_eq_count (w : World) : w.pendingRuns = w.kinds.count true := by
  rw [pendingRuns, kinds, List.count_eq_countP, List.countP_map, ← List.countP_eq_length_filter]
  exact List.countP_congr fun work _ => by simp

theorem pendingDeliveries_eq_count (w : World) : w.pendingDeliveries = w.kinds.count false := by
  rw [pendingDeliveries, kinds, List.count_eq_countP, List.countP_map,
    ← List.countP_eq_length_filter]
  exact List.countP_congr fun work _ => by simp

theorem pendingRuns_answer (w : World) {r : Request} (swift : r.isSwift = true) :
    (w.answer r).2.pendingRuns = w.pendingRuns := by
  cases starts : r.isStart with
  | false => rw [pendingRuns_eq_count, pendingRuns_eq_count, w.kinds_answer starts]
  | true =>
      cases r with
      | start work =>
          cases work with
          | run q => cases swift
          | delivery job => simp [pendingRuns, Background.isRun]
      | _ => cases starts

end World

theorem Request.isExchange_of_isSwift {r : Request} (h : r.isSwift = true) :
    r.isExchange = false := by
  cases r <;> first | rfl | exact isExchange_of_isBrisk h

namespace Prog

variable {m : Prog Unit} {w : World} {permits : Nat}

/-- A run is done in one turn. -/
theorem runTurn_swift (swift : m.Only fun r => r.isSwift = true) :
    m.runTurn w = (none, (m.run w).2) := by
  induction m generalizing w with
  | done a => rfl
  | fail e => rfl
  | call r branch ih =>
      have steady : yields r = false ∧ w.isReady r = true := by
        have allowed := swift.1
        cases r <;> first | exact ⟨rfl, rfl⟩ | cases allowed
      rw [runTurn_call steady.1 steady.2]
      exact ih _ (swift.2 _)

theorem isFree_of_swift (swift : m.Only fun r => r.isSwift = true) (free : w.IsAtEase permits) :
    (m.run w).2.IsAtEase permits ∧ (m.run w).2.pendingRuns = w.pendingRuns := by
  refine swift.run (fun v => v.IsAtEase permits ∧ v.pendingRuns = w.pendingRuns) ?_ ⟨free, rfl⟩
  intro v r kept allowed
  exact ⟨kept.1.of_gate (v.gate_answer (Request.isExchange_of_isSwift allowed)),
    (v.pendingRuns_answer allowed).trans kept.2⟩

/-- What a delivery may ask can be answered as long as there is a permit. -/
theorem isReady_of_passing {p : Passage} {r : Request} (held : Passing permits w [p])
    (positive : 0 < permits) (allowed : passing.may p r) : w.isReady r = true := by
  cases r with
  | beginExchange d headers content =>
      cases p with
      | apart => cases allowed
      | outside =>
          have free : w.permits = permits := held.held
          simp only [World.isReady, ne_eq, decide_not, Bool.not_eq_true', decide_eq_false_iff_not]
          omega
      | inside =>
          obtain ⟨url, no⟩ := allowed
          cases no
  | _ => rfl

theorem quiet_of_passing {p : Passage} {r : Request} (sends : p ≠ .apart)
    (allowed : passing.may p r) : r.isStart = false := by
  rcases Passage.upkeep_or_exchange sends allowed with upkeep | exchange
  · exact (Request.plain_of_isUpkeep upkeep).2
  · cases r <;> first | rfl | cases exchange

/-- Only outside a request are the others let go on. -/
theorem outside_of_yields {p : Passage} {r : Request} (sends : p ≠ .apart)
    (allowed : passing.may p r) (lets : yields r = true) (x : Except Failure r.Answer) :
    passing.next p r x = .outside := by
  cases p with
  | apart => exact absurd rfl sends
  | outside =>
      rcases allowed with upkeep | ⟨d, headers, content, rfl⟩
      · exact Passage.next_of_upkeep upkeep x
      · cases lets
  | inside => rfl

theorem next_ne_apart {p : Passage} (sends : p ≠ .apart) (r : Request)
    (x : Except Failure r.Answer) : passing.next p r x ≠ .apart := by
  cases p with
  | apart => exact absurd rfl sends
  | outside =>
      intro same
      cases r with
      | beginExchange d headers content => cases x <;> cases same
      | _ => cases same
  | inside => nofun

/-- In its turn a delivery gives back every permit that it takes, starts nothing, and comes to its
end or lets the others go on once. -/
theorem runTurn_delivery (positive : 0 < permits) {p : Passage} {k : Nat} (sends : p ≠ .apart)
    (passes : m.Leads passing (fun _ => Passage.isEnd) p)
    (paces : m.Leads pacing (fun _ _ => True) k) (held : Passing permits w [p]) :
    (m.runTurn w).2.IsAtEase permits ∧ (m.runTurn w).2.kinds = w.kinds ∧
      ∀ left, (m.runTurn w).1 = some left →
        ∃ k' < k, left.Leads passing (fun _ => Passage.isEnd) .outside ∧
          left.Leads pacing (fun _ _ => True) k' := by
  have free {v : World} {q : Passage} (held : Passing permits v [q]) (ends : q.isEnd) :
      v.IsAtEase permits := by
    have none : [q].countP Passage.isInside = 0 := by
      rw [List.countP_singleton, show q.isInside = false from ends]
      rfl
    have counted := held.held
    rw [none] at counted
    exact ⟨counted, held.inFlight.trans none⟩
  induction m generalizing w p k with
  | done a => exact ⟨free held passes, rfl, nofun⟩
  | fail e => exact ⟨free held passes, rfl, nofun⟩
  | call r branch ih =>
      have ready := isReady_of_passing held positive passes.1
      have alone : Passing permits w ([] ++ p :: []) := held
      have after := alone.answered passes.1 ready
      have kinds := w.kinds_answer (quiet_of_passing sends passes.1)
      cases lets : yields r with
      | true =>
          rw [runTurn_yield lets ready]
          have onward := passes.2 (w.answer r).1 trivial
          have later := paces.2 (w.answer r).1 trivial
          rw [outside_of_yields sends passes.1 lets] at onward after
          refine ⟨free after rfl, kinds, ?_⟩
          intro left same
          obtain rfl := Option.some.inj same
          simp only [pacing, lets, if_true] at later
          exact ⟨k - 1, Nat.sub_lt (paces.1 lets) Nat.one_pos, onward, later⟩
      | false =>
          rw [runTurn_call lets ready]
          have later := paces.2 (w.answer r).1 trivial
          rw [(Pacing.idle_of_steady lets).2] at later
          obtain ⟨isFree, same, left⟩ :=
            ih _ (next_ne_apart sends r _) (passes.2 _ trivial) later after
          exact ⟨isFree, same.trans kinds, left⟩

end Prog

/-! ## Rounds come to an end -/

theorem World.round_cons (settings : Settings) (task : Prog Unit) (tasks : List (Prog Unit))
    (w : World) :
    World.round settings (task :: tasks) w =
      let turn := task.runTurn w
      let others := World.round settings tasks { turn.2 with queue := [] }
      (turn.2.queue.map (·.program settings) ++ turn.1.toList ++ others.1, others.2) := rfl

namespace Lasts

variable {settings : Settings} {n permits : Nat} {m : Prog Unit} {ms : List (Prog Unit)}
  {w : World}

theorem of_delivery (job : QueuedDelivery) (room : Pacing.yieldings settings < n) :
    Lasts settings n (Deliver.background settings job) :=
  .delivery (Passage.leads_work settings (.delivery job)) (Pacing.leads_background settings job)
    room

theorem of_work (work : Background) (room : Pacing.yieldings settings + 1 < n) :
    Lasts settings n (work.program settings) := by
  cases work with
  | run q => exact .run (Dispatch.swift_background settings q) room
  | delivery job => exact of_delivery job (Nat.lt_of_succ_lt room)

/-- After its turn there is one round less in store for a task, and for what it has started. -/
theorem turn (positive : 0 < permits) (h : Lasts settings (n + 1) m) (free : w.IsAtEase permits)
    (empty : w.queue = []) :
    (m.runTurn w).2.IsAtEase permits ∧
      (∀ work ∈ (m.runTurn w).2.queue, Lasts settings n (work.program settings)) ∧
      ∀ left, (m.runTurn w).1 = some left → Lasts settings n left := by
  cases h with
  | run swift room =>
      rw [Prog.runTurn_swift swift]
      obtain ⟨isFree, runs⟩ := Prog.isFree_of_swift swift free
      refine ⟨isFree, ?_, nofun⟩
      intro work waits
      have none : (m.run w).2.pendingRuns = 0 := by
        rw [runs, World.pendingRuns, empty]
        rfl
      have delivers := List.filter_eq_nil_iff.mp (List.eq_nil_of_length_eq_zero none) work waits
      cases work with
      | run q => exact absurd rfl delivers
      | delivery job => exact of_delivery job (Nat.lt_of_succ_lt_succ room)
  | delivery passes paces room =>
      obtain ⟨isFree, kinds, left⟩ := Prog.runTurn_delivery (p := .outside) positive nofun passes
        paces ⟨free.permits, free.inFlight⟩
      refine ⟨isFree, ?_, ?_⟩
      · have still : (m.runTurn w).2.queue = [] := by
          rw [World.kinds, World.kinds, empty] at kinds
          exact List.map_eq_nil_iff.mp kinds
        rw [still]
        exact List.forall_mem_nil _
      · intro m' same
        obtain ⟨k', fewer, passes, paces⟩ := left m' same
        exact .delivery passes paces (Nat.lt_of_lt_of_le fewer (Nat.le_of_lt_succ room))

theorem round (positive : 0 < permits) (all : ∀ m ∈ ms, Lasts settings (n + 1) m)
    (free : w.IsAtEase permits) (empty : w.queue = []) :
    (World.round settings ms w).2.IsAtEase permits ∧ (World.round settings ms w).2.queue = [] ∧
      ∀ m ∈ (World.round settings ms w).1, Lasts settings n m := by
  induction ms generalizing w with
  | nil => exact ⟨free, empty, nofun⟩
  | cons m ms ih =>
      obtain ⟨isFree, begun, left⟩ := (all m List.mem_cons_self).turn positive free empty
      obtain ⟨free', empty', others⟩ := ih (fun x hx => all x (List.mem_cons_of_mem m hx))
        (w := { (m.runTurn w).2 with queue := [] }) ⟨isFree.permits, isFree.inFlight⟩ rfl
      rw [World.round_cons]
      refine ⟨free', empty', ?_⟩
      intro x hx
      rcases List.mem_append.mp hx with hx | hx
      · rcases List.mem_append.mp hx with hx | hx
        · obtain ⟨work, waits, rfl⟩ := List.mem_map.mp hx
          exact begun work waits
        · exact left x (Option.mem_toList.mp hx)
      · exact others x hx

end Lasts

/-! ## Rounds are an interleaving -/

/-- The task that work begins as. -/
def Background.task (settings : Settings) (work : Background) : Task :=
  ⟨work, work.program settings⟩

namespace System

section Keeps

variable {α : Type} {settings : Settings} {outside : World → World → Prop}
  {Kept : System α → Prop} {calls : List (Prog α)} {w : World}

/-- A turn is made of steps of one task. -/
theorem runTurn_keeps
    (moves : ∀ s t, Step settings outside s t → t.calls = s.calls → Kept s → Kept t)
    {before after : List Task} {work : Background} {m : Prog Unit}
    (kept : Kept ⟨w, calls, before ++ ⟨work, m⟩ :: after⟩) :
    ∃ m', Kept ⟨(m.runTurn w).2, calls, before ++ ⟨work, m'⟩ :: after⟩ ∧
      ((m.runTurn w).1 = some m' ∨ (m.runTurn w).1 = none ∧ m'.isOver = true) := by
  induction m generalizing w with
  | done a => exact ⟨.done a, kept, .inr ⟨rfl, rfl⟩⟩
  | fail e => exact ⟨.fail e, kept, .inr ⟨rfl, rfl⟩⟩
  | call r rest ih =>
      by_cases ready : w.isReady r = true
      · have moved := moves _ _ (.task w calls before after work r rest ready) rfl kept
        by_cases lets : Prog.yields r = true
        · rw [Prog.runTurn_yield lets ready]
          exact ⟨_, moved, .inl rfl⟩
        · rw [Prog.runTurn_call (Bool.not_eq_true _ ▸ lets) ready]
          exact ih _ moved
      · rw [Prog.runTurn_wait (Bool.not_eq_true _ ▸ ready)]
        exact ⟨_, kept, .inl rfl⟩

/-- All that waits may begin. -/
theorem takeQueue_keeps
    (moves : ∀ s t, Step settings outside s t → t.calls = s.calls → Kept s → Kept t)
    {tasks : List Task} (kept : Kept ⟨w, calls, tasks⟩) :
    Kept ⟨{ w with queue := [] }, calls, tasks ++ w.queue.map (·.task settings)⟩ := by
  have taken (works : List Background) (tasks : List Task)
      (kept : Kept ⟨{ w with queue := works }, calls, tasks⟩) :
      Kept ⟨{ w with queue := [] }, calls, tasks ++ works.map (·.task settings)⟩ := by
    induction works generalizing tasks with
    | nil => simpa using kept
    | cons work works ih =>
        have begun := moves _ _ (.begin _ calls tasks [] works work rfl) rfl kept
        simpa [Background.task] using ih _ begun
  exact taken w.queue tasks kept

/-- What is listed after one task has had its turn, and others have begun. -/
theorem listed_after_turn (settings : Settings) {before after : List Task} {work : Background}
    {m : Prog Unit} {ms rest : List (Prog Unit)} (m' : Prog Unit) (works : List Background)
    (listed : ((before ++ ⟨work, m⟩ :: after).map Task.left).Perm (m :: ms ++ rest)) :
    ((before ++ ⟨work, m'⟩ :: after ++ works.map (·.task settings)).map Task.left).Perm
      (ms ++ (m' :: (works.map (·.program settings) ++ rest))) := by
  rw [List.map_append, List.map_cons] at listed
  have others := (List.perm_middle.symm.trans listed).cons_inv
  rw [List.map_append, List.map_append, List.map_cons, List.map_map]
  calc (before.map Task.left ++ m' :: after.map Task.left) ++ works.map (·.program settings)
    _ |>.Perm (m' :: (before.map Task.left ++ after.map Task.left) ++
          works.map (·.program settings)) := List.perm_middle.append_right _
    _ |>.Perm (m' :: (ms ++ rest) ++ works.map (·.program settings)) :=
        (others.cons m').append_right _
    _ |>.Perm (m' :: (ms ++ (works.map (·.program settings) ++ rest))) := by
        simpa using (List.perm_append_comm.append_left ms)
    _ |>.Perm (ms ++ (m' :: (works.map (·.program settings) ++ rest))) := List.perm_middle.symm

theorem perm_apart (others gone begun rest : List (Prog Unit)) (m : Prog Unit) :
    (others ++ (gone ++ m :: (begun ++ rest))).Perm
      (m :: (begun ++ (others ++ (gone ++ rest)))) := by
  rw [← List.append_assoc]
  refine List.perm_middle.trans (.cons m ?_)
  simpa using List.perm_append_comm_assoc (others ++ gone) begun rest

theorem round_keeps
    (moves : ∀ s t, Step settings outside s t → t.calls = s.calls → Kept s → Kept t)
    {tasks : List Task} {ms rest : List (Prog Unit)} (kept : Kept ⟨w, calls, tasks⟩)
    (listed : (tasks.map Task.left).Perm (ms ++ rest)) :
    ∃ tasks' gone, Kept ⟨(World.round settings ms w).2, calls, tasks'⟩ ∧
      (∀ m ∈ gone, m.isOver = true) ∧
      (tasks'.map Task.left).Perm ((World.round settings ms w).1 ++ (gone ++ rest)) := by
  induction ms generalizing w tasks rest with
  | nil => exact ⟨tasks, [], kept, nofun, listed⟩
  | cons m ms ih =>
      obtain ⟨⟨work, m₀⟩, there, rfl⟩ := List.mem_map.mp (listed.symm.subset List.mem_cons_self)
      obtain ⟨before, after, rfl⟩ := List.append_of_mem there
      obtain ⟨m', moved, left⟩ := runTurn_keeps moves kept
      have begun := takeQueue_keeps moves moved
      obtain ⟨tasks', gone, kept', ended, listed'⟩ :=
        ih begun (listed_after_turn settings m' _ listed)
      have apart := listed'.trans (perm_apart _ gone _ rest m')
      rcases left with more | ⟨none, isOver⟩
      · refine ⟨tasks', gone, kept', ended, apart.trans ?_⟩
        simpa [World.round_cons, more] using List.perm_middle.symm
      · refine ⟨tasks', m' :: gone, kept', ?_, apart.trans ?_⟩
        · intro x hx
          rcases List.mem_cons.mp hx with rfl | hx
          · exact isOver
          · exact ended x hx
        · have last (begun others : List (Prog Unit)) :
              (m' :: (begun ++ (others ++ (gone ++ rest)))).Perm
                ((begun ++ others) ++ m' :: (gone ++ rest)) := by
            rw [← List.append_assoc begun]
            exact List.perm_middle.symm
          simpa [World.round_cons, none] using last _ _

theorem rounds_keeps
    (moves : ∀ s t, Step settings outside s t → t.calls = s.calls → Kept s → Kept t)
    {permits fuel : Nat} {tasks : List Task} {ms gone : List (Prog Unit)}
    (positive : 0 < permits) (kept : Kept ⟨w, calls, tasks⟩)
    (listed : (tasks.map Task.left).Perm (ms ++ gone)) (ended : ∀ m ∈ gone, m.isOver = true)
    (lasts : ∀ m ∈ ms, Lasts settings fuel m) (free : w.IsAtEase permits) (empty : w.queue = []) :
    ∃ tasks', Kept ⟨World.rounds settings fuel ms w, calls, tasks'⟩ ∧
      (∀ t ∈ tasks', t.left.isOver = true) ∧ (World.rounds settings fuel ms w).IsAtEase permits ∧
      (World.rounds settings fuel ms w).queue = [] := by
  induction fuel generalizing w tasks ms gone with
  | zero =>
      cases ms with
      | cons m ms => cases lasts m List.mem_cons_self <;> omega
      | nil =>
          refine ⟨tasks, kept, ?_, free, empty⟩
          intro t ht
          exact ended t.left (listed.subset (List.mem_map_of_mem ht))
  | succ fuel ih =>
      cases ms with
      | nil =>
          refine ⟨tasks, kept, ?_, free, empty⟩
          intro t ht
          exact ended t.left (listed.subset (List.mem_map_of_mem ht))
      | cons m ms =>
          obtain ⟨tasks', over', kept', ended', listed'⟩ := round_keeps moves kept listed
          obtain ⟨free', empty', lasts'⟩ := Lasts.round positive lasts free empty
          refine ih kept' listed' ?_ lasts' free' empty'
          intro x hx
          rcases List.mem_append.mp hx with hx | hx
          · exact ended' x hx
          · exact ended x hx

/-- What no step of a task breaks, and what is not broken when work begins, is so when the
background has been carried to its end; and as long as there is a permit, nothing waits then and
all that has begun is over. -/
theorem drain_keeps
    (moves : ∀ s t, Step settings outside s t → t.calls = s.calls → Kept s → Kept t)
    {permits : Nat} (positive : 0 < permits) (free : w.IsAtEase permits)
    (kept : Kept ⟨w, calls, []⟩) :
    ∃ tasks, Kept ⟨w.drain settings, calls, tasks⟩ ∧ (∀ t ∈ tasks, t.left.isOver = true) ∧
      (w.drain settings).IsAtEase permits ∧ (w.drain settings).queue = [] := by
  have begun := takeQueue_keeps moves kept
  have same : ([] ++ w.queue.map (Background.task settings)).map Task.left
      = w.queue.map (Background.program settings) ++ [] := by
    rw [List.nil_append, List.append_nil, List.map_map]
    rfl
  refine rounds_keeps moves positive begun (.of_eq same) (List.forall_mem_nil _) ?_
    ⟨free.permits, free.inFlight⟩ rfl
  intro m hm
  obtain ⟨work, _, rfl⟩ := List.mem_map.mp hm
  exact .of_work work (Nat.lt_succ_self _)

end Keeps
end System
end RecordFlow
