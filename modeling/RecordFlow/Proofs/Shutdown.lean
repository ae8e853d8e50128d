/-
# Shutdown — nothing is left behind

An engine that is shut down waits until no run is left, then until no delivery
is left, and then closes its client if it made it.  Meanwhile everything goes
on in the background: runs submit deliveries, and deliveries are made.  Calls
may go on too, as long as they hand nothing to the background, for that would
not be waited for.

When the shutdown has returned nothing is pending, no key is claimed, and a
client that was closed has answered all requests before: `nothing_left_behind`.
The order matters.  A run may start deliveries but a delivery starts nothing,
so deliveries are waited for once the runs are over.  That a shutdown does
return, and that the schedule which the engine follows is one of the
interleavings, is told by `shutDown_shutsDown`.
-/
import RecordFlow.Proofs.Rounds

namespace RecordFlow

/-! ## Keys, where errands are under way -/

/-- No call is under way: each is over or has yet to begin. -/
def System.IsIdle (settings : Settings) (s : System Unit) : Prop :=
  ∀ c ∈ s.calls, c.isOver = true ∨ ∃ errand : Errand, c = errand.program settings

namespace Custody

open Prog (leads_map only_map)

/-- An errand keeps to the code, and has no key in the end. -/
theorem leads_errand (settings : Settings) (errand : Errand) :
    (errand.program settings).Leads custody (fun _ p => p.isEnd) free := by
  have keyless {m : Prog Unit} (h : m.Only fun r => r.isKeyless = true) :
      m.Leads custody (fun _ p => p.isEnd) free :=
    h.leads (fun _ keyless => ⟨may_of_keyless (p := free) trivial keyless,
      next_of_keyless (p := free) trivial keyless⟩) fun _ => trivial
  have prompt {α : Type} {m : Prog α} (h : m.IsPrompt) : m.Only fun r => r.isKeyless = true :=
    h.mono fun _ prompt => Request.isKeyless_of_isAside (Request.isAside_of_isPrompt prompt)
  cases errand with
  | call c =>
      cases c with
      | dispatch kind context => exact leads_map _ (leads_map _ (leads_dispatch kind context))
      | run id trigger context triggeredBy =>
          exact keyless (only_map _ (only_map _ ((Run.brisk_runById settings id trigger context
            triggeredBy).mono fun _ => Request.isKeyless_of_isBrisk)))
  | act site action => exact keyless (only_map _ (prompt (Runner.isPrompt_execute site action)))
  | submit url method actionId workflowId executionId headers content =>
      exact keyless (only_map _ (prompt (Runner.isPlain_submit _ headers content).isPrompt))

/-- Each key that is claimed is kept by somebody, however often it was robbed. -/
def AllKept (w : World) (ps : List Custody) : Prop := ∀ k, ∃ n, Kept k n w ps

theorem attends (settings : Settings) :
    System.Attends custody isEnd suits settings World.AmidKeys AllKept where
  answered w before p after r tied allowed := by
    refine ⟨expected_answer w r, ?_⟩
    intro k
    obtain ⟨n, kept⟩ := tied k
    by_cases robs : p = running k false ∧ r = .release k ∧ k ∈ w.claimed
    · obtain ⟨rfl, rfl, _⟩ := robs
      exact ⟨n + 1, kept.robbed (by simp [holds]) rfl⟩
    · exact ⟨n, kept.answered allowed robs⟩
  suited p r x work allowed := suits_next x allowed
  begun w ps before work after tied queued := by
    refine ⟨begins work, suits_begins work, leads_program settings work, ?_⟩
    intro k
    obtain ⟨n, kept⟩ := tied k
    exact ⟨n, kept.begun queued⟩
  changed w w' ps amid tied := by
    intro k
    obtain ⟨n, kept⟩ := tied k
    exact ⟨n, kept.of_amidKeys amid⟩

/-- An errand that is over, or has yet to begin, holds no key. -/
theorem holds_of_idle {settings : Settings} {k : RunKey} {p : Custody} {c : Prog Unit}
    (leads : c.Leads custody (fun _ => isEnd) p) (dispatching : p.IsDispatching)
    (idle : c.isOver = true ∨ ∃ errand : Errand, c = errand.program settings) :
    p.holds k = false := by
  cases p with
  | free => rfl
  | claiming key =>
      rcases idle with isOver | ⟨errand, rfl⟩
      · exact absurd (leads.ends isOver) id
      · -- no errand begins with what is asked with a key in hand
        rcases errand with (_ | _) | _ | _ <;> rcases leads.1 with first | first <;> cases first
  | cleared key =>
      rcases idle with isOver | ⟨errand, rfl⟩
      · exact absurd (leads.ends isOver) id
      · rcases errand with (_ | _) | _ | _ <;>
          (obtain ⟨q, first, _⟩ := leads.1; cases first)
  | _ => cases dispatching

end Custody

/-! ## What is pending -/

namespace System

section Pending

variable {α : Type}

/-- How many runs have been started in the background and are not over. -/
def pendingRuns (s : System α) : Nat :=
  s.world.pendingRuns + s.tasks.countP fun t => t.work.isRun && !t.left.isOver

/-- How many deliveries have been submitted and are not over. -/
def pendingDeliveries (s : System α) : Nat :=
  s.world.pendingDeliveries + s.tasks.countP fun t => !t.work.isRun && !t.left.isOver

variable {s : System α}

theorem pendingRuns_eq_zero : s.pendingRuns = 0 ↔
    true ∉ s.world.kinds ∧ ∀ t ∈ s.tasks, t.work.isRun = true → t.left.isOver = true := by
  rw [pendingRuns, Nat.add_eq_zero_iff, World.pendingRuns_eq_count, List.count_eq_zero,
    List.countP_eq_zero]
  simp

theorem pendingDeliveries_eq_zero : s.pendingDeliveries = 0 ↔
    false ∉ s.world.kinds ∧ ∀ t ∈ s.tasks, t.work.isRun = false → t.left.isOver = true := by
  rw [pendingDeliveries, Nat.add_eq_zero_iff, World.pendingDeliveries_eq_count, List.count_eq_zero,
    List.countP_eq_zero]
  simp

theorem mem_kinds_of_queued {w : World} {before after : List Background} {work : Background}
    (queued : w.queue = before ++ work :: after) : work.isRun ∈ w.kinds := by
  rw [World.kinds, queued]
  exact List.mem_map_of_mem (by simp)

theorem kinds_subset {w : World} {before after : List Background} {work : Background}
    (queued : w.queue = before ++ work :: after) :
    ({ w with queue := before ++ after } : World).kinds ⊆ w.kinds := by
  intro kind there
  rw [World.kinds, queued, List.map_append, List.map_cons]
  rw [World.kinds, List.map_append] at there
  rcases List.mem_append.mp there with there | there
  · exact List.mem_append_left _ there
  · exact List.mem_append_right _ (List.mem_cons_of_mem _ there)

end Pending

/-! ## Shutting down -/

/-- A call hands work to the background. -/
inductive Enlists : System Unit → System Unit → Prop where
  | enlists (w : World) (before after : List (Prog Unit)) (tasks : List Task) (work : Background)
      (rest : Except Failure Unit → Prog Unit) :
      Enlists ⟨w, before ++ .call (.start work) rest :: after, tasks⟩
        ⟨(w.answer (.start work)).2, before ++ rest (w.answer (.start work)).1 :: after, tasks⟩

end System

/-- What may happen to a world besides: nothing to the keys, to the work that waits and to the
client. -/
structure World.AmidShutdown (w w' : World) : Prop where
  keys : w.AmidKeys w'
  kinds : w'.kinds = w.kinds
  gate : w'.gate = w.gate

theorem World.closed_answer (w : World) (r : Request) :
    (w.answer r).2.clientClosed = w.clientClosed := by
  cases exchange : r.isExchange with
  | false => exact congrArg Prod.fst (w.gate_answer exchange)
  | true =>
      cases r with
      | beginExchange d headers content =>
          rcases w.gate_beginExchange d headers content with ⟨_, _, gate⟩ | ⟨_, isOpen, gate⟩
          · exact congrArg Prod.fst gate
          · exact (congrArg Prod.fst gate).trans isOpen.symm
      | endExchange url => rfl
      | _ => cases exchange

/-- The world after the client is closed by who made it. -/
def World.closedBy (owns : Bool) (w : World) : World :=
  { w with clientClosed := w.clientClosed || owns }

/-- How far a shutdown has come. -/
inductive Teardown where
  /-- It waits for the runs. -/
  | runs
  /-- It waits for the deliveries. -/
  | deliveries
  /-- It has returned. -/
  | returned
deriving DecidableEq

/-- The states that an engine which is shut down can come to, with the stage of the shutdown. -/
inductive System.ShutsDown (settings : Settings) (owns : Bool) (start : System Unit) :
    Teardown → System Unit → Prop where
  | begins : ShutsDown settings owns start .runs start
  | goesOn {stage : Teardown} {s t : System Unit} (before : ShutsDown settings owns start stage s)
      (move : Step settings World.AmidShutdown s t) (quiet : ¬ Enlists s t) :
      ShutsDown settings owns start stage t
  | runsOver {s : System Unit} (before : ShutsDown settings owns start .runs s)
      (gone : s.pendingRuns = 0) : ShutsDown settings owns start .deliveries s
  | returns {s : System Unit} (before : ShutsDown settings owns start .deliveries s)
      (gone : s.pendingDeliveries = 0) :
      ShutsDown settings owns start .returned ⟨s.world.closedBy owns, s.calls, s.tasks⟩

/-- A step of a system whose runs are over, in which no call hands work to the background: no run is
pending after it, and no delivery if there was none. -/
theorem System.pending_step {settings : Settings} {n : Nat} {s t : System Unit}
    (admits : s.Admits n) (move : Step settings World.AmidShutdown s t) (quiet : ¬ Enlists s t)
    (runs : s.pendingRuns = 0) :
    t.pendingRuns = 0 ∧ (s.pendingDeliveries = 0 → t.pendingDeliveries = 0) := by
  simp only [pendingRuns_eq_zero, pendingDeliveries_eq_zero] at runs ⊢
  cases move with
  | call w before after tasks r rest ready =>
      have starts : r.isStart = false := by
        cases r with
        | start work => exact absurd (.enlists w before after tasks work rest) quiet
        | _ => rfl
      rw [w.kinds_answer starts]
      exact ⟨runs, id⟩
  | task w calls before after work r rest ready =>
      obtain ⟨_, p, _, _, allowed, suited, _⟩ := admits.atTask
      -- what is still at work is no run
      have delivers : work.isRun = false := by
        cases isRun : work.isRun with
        | false => rfl
        | true => cases runs.2 ⟨work, .call r rest⟩ (by simp) isRun
      have sends : p ≠ .apart := by
        rintro rfl
        rw [show work.isRun = true from suited] at delivers
        cases delivers
      rw [w.kinds_answer (Prog.quiet_of_passing sends allowed)]
      refine ⟨⟨runs.1, ?_⟩, ?_⟩
      · intro task there isRun
        rcases List.mem_append.mp there with there | there
        · exact runs.2 task (List.mem_append_left _ there) isRun
        · rcases List.mem_cons.mp there with rfl | there
          · exact absurd isRun (by simp [delivers])
          · exact runs.2 task (List.mem_append_right _ (List.mem_cons_of_mem _ there)) isRun
      · intro deliveries
        cases deliveries.2 ⟨work, .call r rest⟩ (by simp) delivers
  | «begin» w calls tasks before after work queued =>
      have waits := mem_kinds_of_queued queued
      cases isRun : work.isRun with
      | true => exact absurd (isRun ▸ waits) runs.1
      | false =>
          refine ⟨⟨fun there => runs.1 (kinds_subset queued there), ?_⟩, ?_⟩
          · intro task there run
            rcases List.mem_append.mp there with there | there
            · exact runs.2 task there run
            · obtain rfl := List.mem_singleton.mp there
              exact absurd run (by simp [isRun])
          · intro deliveries
            exact absurd (isRun ▸ waits) deliveries.1
  | change w w' calls tasks allowed =>
      rw [allowed.kinds]
      exact ⟨runs, id⟩

theorem System.closed_step {settings : Settings} {s t : System Unit}
    (move : Step settings World.AmidShutdown s t) :
    t.world.clientClosed = s.world.clientClosed := by
  cases move with
  | call w before after tasks r rest ready => exact w.closed_answer r
  | task w calls before after work r rest ready => exact w.closed_answer r
  | «begin» w calls tasks before after work queued => rfl
  | change w w' calls tasks allowed => exact congrArg Prod.fst allowed.gate

/-! ## What holds at every stage -/

/-- What a shutdown has come to: no run is pending once the runs were waited for, no delivery once
it has returned, and the client is closed then and not before, and only by who made it. -/
structure Teardown.Leaves (owns : Bool) (stage : Teardown) (s : System Unit) : Prop where
  runs : stage ≠ .runs → s.pendingRuns = 0
  deliveries : stage = .returned → s.pendingDeliveries = 0
  closed : s.world.clientClosed = (decide (stage = .returned) && owns)

/-- What may happen to a world besides, or when its client is closed. -/
structure World.AmidClosing (w w' : World) : Prop where
  keys : w.AmidKeys w'
  permits : w.AmidPermits w'

theorem World.AmidShutdown.amidClosing {w w' : World} (h : w.AmidShutdown w') :
    w.AmidClosing w' where
  keys := h.keys
  permits := ⟨congrArg (fun gate => gate.2.1) h.gate, congrArg (fun gate => gate.2.2) h.gate⟩

namespace System

variable {e : Engine} {settings : Settings} {owns : Bool} {start s t : System Unit}
  {stage : Teardown}

theorem ShutsDown.reachable (reachable : Reachable settings World.AmidClosing start s)
    (shuts : ShutsDown settings owns s stage t) :
    Reachable settings World.AmidClosing start t := by
  induction shuts with
  | begins => exact reachable
  | goesOn _ move _ ih => exact ih.step (move.mono fun _ _ => World.AmidShutdown.amidClosing)
  | runsOver _ _ ih => exact ih
  | returns _ _ ih => exact ih.step (.change _ _ _ _ ⟨⟨rfl, rfl⟩, ⟨rfl, rfl⟩⟩)

theorem ShutsDown.leaves {n : Nat} (admits : start.Admits n)
    (reachable : Reachable settings World.AmidClosing start s)
    (isOpen : s.world.clientClosed = false) (shuts : ShutsDown settings owns s stage t) :
    stage.Leaves owns t := by
  induction shuts with
  | begins => exact ⟨nofun, nofun, isOpen⟩
  | goesOn before move quiet ih =>
      have here := admits.of_reachable (fun _ _ amid => amid.permits) (before.reachable reachable)
      refine ⟨?_, ?_, (closed_step move).trans ih.closed⟩
      · intro later
        exact (pending_step here move quiet (ih.runs later)).1
      · rintro rfl
        exact (pending_step here move quiet (ih.runs nofun)).2 (ih.deliveries rfl)
  | runsOver before gone ih => exact ⟨fun _ => gone, nofun, ih.closed⟩
  | returns before gone ih =>
      refine ⟨fun _ => ih.runs nofun, fun _ => gone, ?_⟩
      rw [World.closedBy, ih.closed]
      rfl

/-- An engine has been put together and nothing has happened yet: its client is open, no key is
claimed, and nothing waits. -/
structure IsNew (e : Engine) (s : System Unit) : Prop extends s.IsAssembled e where
  isOpen : s.world.clientClosed = false
  unclaimed : s.world.claimed = []
  idle : s.world.queue = []

/-- All work keeps to the code of the keys, and calls are errands. -/
def Keeps (s : System Unit) : Prop :=
  Attended custody Custody.isEnd Custody.suits
    (fun w ps => Custody.AllKept w ps ∧ Fronted Custody.IsDispatching s.calls.length ps) s

theorem Keeps.of_isNew (fresh : start.IsNew e) : start.Keeps := by
  refine Attended.of_start .free ?_ fresh.tasks ⟨?_, by simp, ?_⟩
  · intro c hc
    obtain ⟨errand, rfl⟩ := fresh.calls c hc
    exact Custody.leads_errand e.settings errand
  · intro k
    have none : Custody.keepers k start.world (List.replicate start.calls.length .free) = 0 := by
      rw [Custody.keepers, World.waiting, fresh.idle, List.countP_replicate]
      rfl
    refine ⟨0, ?_, ?_⟩
    · rw [fresh.unclaimed]
      exact fun no => absurd no List.not_mem_nil
    · rw [none]
      exact Nat.zero_le _
  · intro p hp
    obtain rfl := List.eq_of_mem_replicate (List.mem_of_mem_take hp)
    trivial

theorem Keeps.of_reachable {outside : World → World → Prop}
    (amid : ∀ w w', outside w w' → w.AmidKeys w') (h : start.Keeps)
    (reachable : Reachable settings outside start s) : s.Keeps := by
  have attends := (Custody.attends settings).fronted
    (fun p r x allowed => Custody.isDispatching_next x allowed) start.calls.length
  rw [Keeps, reachable.calls_length]
  exact Attended.of_reachable attends (reachable.mono amid) h

/-- Where no run is pending and no call is under way, no key is claimed. -/
theorem Keeps.unclaimed (h : s.Keeps) (idle : s.IsIdle settings)
    (runs : s.pendingRuns = 0) : s.world.claimed = [] := by
  obtain ⟨calls, tasks, hcalls, htasks, leads, keeps, kept, fronted⟩ := h
  obtain ⟨waits, gone⟩ := pendingRuns_eq_zero.mp runs
  have dispatching : ∀ p ∈ calls.map Prod.fst, p.IsDispatching := by
    rw [hcalls, List.length_map, ← List.length_map (f := Prod.fst)] at fronted
    exact fronted.forall_mem
  have none : s.world.waiting = [] := by
    refine List.filterMap_eq_nil_iff.mpr ?_
    intro work there
    cases work with
    | run q => exact absurd (List.mem_map_of_mem there) waits
    | delivery job => rfl
  refine List.eq_nil_iff_forall_not_mem.mpr ?_
  intro k claimed
  obtain ⟨n, kept⟩ := kept k
  have held := kept.held claimed
  rw [Custody.keepers, none, List.countP_nil, Nat.add_zero, List.countP_pos_iff] at held
  obtain ⟨p, there, holds⟩ := held
  rcases List.mem_append.mp there with there | there
  · obtain ⟨x, hx, rfl⟩ := List.mem_map.mp there
    have free := Custody.holds_of_idle (k := k) (leads x hx) (dispatching _ there)
      (idle x.2 (hcalls ▸ List.mem_map_of_mem hx))
    rw [free] at holds
    cases holds
  · obtain ⟨x, hx, rfl⟩ := List.mem_map.mp there
    rw [Custody.holds_eq (keeps x hx).2 (keeps x hx).1, Bool.and_eq_true] at holds
    have isRun : x.2.work.isRun = true := by
      cases work : x.2.work with
      | run q => rfl
      | delivery job =>
          rw [work] at holds
          cases holds.1
    have ended := gone x.2 (htasks ▸ List.mem_map_of_mem hx) isRun
    simp [ended] at holds

/-! ## The theorem -/

end System

/-- Whether a program is about to make a request of the client. -/
def Prog.isRequesting {α : Type} : Prog α → Bool
  | .call (.beginExchange ..) _ => true
  | _ => false

namespace System

variable {e : Engine} {start s t : System Unit} {stage : Teardown}

theorem Admits.not_requesting {n : Nat} (h : s.Admits n) :
    ∀ c ∈ s.calls, c.isRequesting = false := by
  intro c hc
  cases keeps : c with
  | call r rest =>
      have allowed := (keeps ▸ h.leads_apart c hc).1
      cases r <;> first | rfl | cases allowed
  | _ => rfl

/-- However what is under way interleaves when an engine is shut down, and whatever was under way
before, if no call hands anything to the background meanwhile: when the shutdown has returned no
run and no delivery is pending, none of them being in flight; no key is claimed, unless by a call
that is still under way; and the client is closed if the engine made it.  It is never closed
before, so no request is made of a closed client. -/
theorem nothing_left_behind (fresh : start.IsNew e)
    (reachable : Reachable e.settings World.AmidShutdown start s)
    (shuts : ShutsDown e.settings e.ownsClient s stage t) :
    (stage = .returned →
        t.pendingRuns = 0 ∧ t.pendingDeliveries = 0 ∧ t.world.inFlight = 0 ∧
          (t.IsIdle e.settings → t.world.claimed = []) ∧ t.world.clientClosed = e.ownsClient) ∧
      (t.world.clientClosed = true → stage = .returned) ∧
      (∀ task ∈ t.tasks, task.left.isRequesting = true → t.world.clientClosed = false) ∧
      ∀ c ∈ t.calls, c.isRequesting = false := by
  have isOpen : s.world.clientClosed = false :=
    reachable.keeps fresh.isOpen fun _ _ move isOpen => (closed_step move).trans isOpen
  have before := reachable.mono fun _ _ => World.AmidShutdown.amidClosing
  have begun := Admits.of_isAssembled fresh.toIsAssembled
  have admits : t.Admits _ :=
    begun.of_reachable (fun _ _ amid => amid.permits) (shuts.reachable before)
  have keeps : t.Keeps :=
    (Keeps.of_isNew fresh).of_reachable (fun _ _ amid => amid.keys) (shuts.reachable before)
  have leaves := shuts.leaves begun before isOpen
  have gone (returned : stage = .returned) : ∀ task ∈ t.tasks, task.left.isOver = true := by
    have runs := pendingRuns_eq_zero.mp (leaves.runs (by simp [returned]))
    have deliveries := pendingDeliveries_eq_zero.mp (leaves.deliveries returned)
    intro task there
    cases isRun : task.work.isRun with
    | true => exact runs.2 task there isRun
    | false => exact deliveries.2 task there isRun
  refine ⟨?_, ?_, ?_, admits.not_requesting⟩
  · intro returned
    have runs := leaves.runs (by simp [returned])
    refine ⟨runs, leaves.deliveries returned, ?_, fun idle => keeps.unclaimed idle runs, ?_⟩
    · rw [admits.adds_up.2, exchanging, List.countP_eq_zero]
      intro task there
      have ended := gone returned task there
      cases left : task.left with
      | call r rest => simp [left, Prog.isOver] at ended
      | _ => simp [Prog.isExchanging]
    · rw [leaves.closed, returned]
      rfl
  · intro closed
    rw [leaves.closed, Bool.and_eq_true, decide_eq_true_eq] at closed
    exact closed.1
  · intro task there requesting
    cases closed : t.world.clientClosed with
    | false => rfl
    | true =>
        rw [leaves.closed, Bool.and_eq_true, decide_eq_true_eq] at closed
        have ended := gone closed.1 task there
        cases left : task.left with
        | call r rest => simp [left, Prog.isOver] at ended
        | _ => simp [left, Prog.isRequesting] at requesting

/-! ## The schedule of the engine -/

variable {e : Engine}

theorem not_enlists_of_calls {s t : System Unit} (same : t.calls = s.calls) : ¬ Enlists s t := by
  intro enlists
  cases enlists with
  | enlists w before after tasks work rest =>
      have middle := (List.append_cancel_left same)
      exact Prog.rest_ne _ rfl _ (List.cons.inj middle).1

theorem shutDown_world (e : Engine) :
    e.shutDown.world = (e.world.drain e.settings).closedBy e.ownsClient := by
  unfold Engine.shutDown World.closedBy
  cases owns : e.ownsClient <;> simp [Engine.drain, Engine.withWorld, owns]

/-- The engine's own shutdown, from where all work in the background waits and there is a permit, is
one of these interleavings, and it returns. -/
theorem shutDown_shutsDown {permits : Nat} (positive : 0 < permits)
    (free : e.world.IsAtEase permits) (calls : List (Prog Unit)) :
    ∃ tasks, ShutsDown e.settings e.ownsClient ⟨e.world, calls, []⟩ .returned
      ⟨e.shutDown.world, calls, tasks⟩ := by
  have moves (s t : System Unit) (move : Step e.settings World.AmidShutdown s t)
      (same : t.calls = s.calls)
      (before : ShutsDown e.settings e.ownsClient ⟨e.world, calls, []⟩ .runs s) :
      ShutsDown e.settings e.ownsClient ⟨e.world, calls, []⟩ .runs t :=
    before.goesOn move (not_enlists_of_calls same)
  obtain ⟨tasks, drained, gone, _, empty⟩ := drain_keeps moves positive free .begins
  have none : (e.world.drain e.settings).kinds = [] := by
    rw [World.kinds, empty]
    rfl
  have runs := drained.runsOver (pendingRuns_eq_zero.mpr
    ⟨by simp [none], fun task there _ => gone task there⟩)
  have returned := runs.returns (pendingDeliveries_eq_zero.mpr
    ⟨by simp [none], fun task there _ => gone task there⟩)
  rw [shutDown_world]
  exact ⟨tasks, returned⟩

/-- The greeting is dispatched for the new deal. -/
def greetsDeal : Errand := .call (.dispatch (.known .recordCreated) newDeal)

/-- An engine that has made its client, over a store with the greeting. -/
def greeter : Engine where
  ownsClient := true
  world := { store := .memory { workflows := [greeting] } }

/-- A new deal is to be greeted, and to be told of at an address. -/
def greetedAndHooked : System Unit where
  world := greeter.world
  calls := [greetsDeal.program {}, hook.program {}]
  tasks := []

theorem greetedAndHooked_isNew : greetedAndHooked.IsNew greeter where
  assembled := ⟨greeter.world, rfl⟩
  world := rfl
  inFlight := rfl
  calls c hc := by
    rcases List.mem_cons.mp hc with rfl | hc
    · exact ⟨greetsDeal, rfl⟩
    · obtain rfl := List.mem_singleton.mp hc
      exact ⟨hook, rfl⟩
  tasks := rfl
  isOpen := rfl
  unclaimed := rfl
  idle := rfl

/-- The greeting claims its key and waits to be run, and so does the delivery. -/
theorem greetedAndHooked_waits : ∃ world calls,
    Reachable {} World.AmidShutdown greetedAndHooked ⟨world, calls, []⟩ ∧
      world.pendingRuns = 1 ∧ world.pendingDeliveries = 1 ∧
      world.claimed = [Dispatch.keyFor greeting.record newDeal] ∧ world.IsAtEase 20 ∧
      IsIdle {} ⟨world, calls, []⟩ := by
  have listed : greeter.world.store.listActive newDeal.entityType (.known .recordCreated)
      = .ok [greeting] := congrArg Except.ok (Dispatch.listActive_single rfl rfl rfl)
  obtain ⟨logs, ran⟩ := Dispatch.dispatch_run (w := greeter.world) List.not_mem_nil
    List.not_mem_nil listed (List.nodup_singleton _)
  have chosen : Dispatch.chosen (.known .recordCreated) newDeal greeter.world [greeting]
      = [greeting] := rfl
  have waits : Reachable {} World.AmidShutdown greetedAndHooked greetedAndHooked := .refl
  have free : (greetsDeal.program {}).isFree greeter.world = true :=
    (Passage.apart_errand {} greetsDeal).isFree (fun _ plain w => w.isReady_of_plain plain) _
  have first := waits.runCall [] [hook.program {}] free
  have same : ((greetsDeal.program {}).run greeter.world).2
      = Dispatch.started (.known .recordCreated) newDeal greeter.world [greeting] logs := by
    rw [greetsDeal, Errand.program, Prog.run_map, Call.program, Prog.run_map, ran, chosen]
  rw [same] at first
  have second := first.runCall [_] [] rfl
  refine ⟨_, _, second, rfl, rfl, rfl, ⟨rfl, rfl⟩, ?_⟩
  intro c hc
  rcases List.mem_cons.mp hc with rfl | hc
  · exact .inl (Prog.isOver_ofExcept _)
  · obtain rfl := List.mem_singleton.mp hc
    exact .inl (Prog.isOver_ofExcept _)

/-- With a run and a delivery waiting and a key claimed the engine is shut down, and nothing is left
when it has returned. -/
theorem greetedAndHooked_shutsDown :
    ∃ s t, Reachable greeter.settings World.AmidShutdown greetedAndHooked s ∧ s.pendingRuns = 1 ∧
      s.pendingDeliveries = 1 ∧ s.world.claimed = [Dispatch.keyFor greeting.record newDeal] ∧
      ShutsDown greeter.settings greeter.ownsClient s .returned t ∧ t.pendingRuns = 0 ∧
      t.pendingDeliveries = 0 ∧ t.world.claimed = [] ∧ t.world.clientClosed = true := by
  obtain ⟨world, calls, reachable, runs, deliveries, claimed, free, idle⟩ := greetedAndHooked_waits
  obtain ⟨tasks, shuts⟩ := shutDown_shutsDown (e := greeter.withWorld world) (Nat.succ_pos 19) free
    calls
  obtain ⟨runs', deliveries', _, unclaimed, closed⟩ :=
    (nothing_left_behind greetedAndHooked_isNew reachable shuts).1 rfl
  exact ⟨_, _, reachable, runs, deliveries, claimed, shuts, runs', deliveries', unclaimed idle,
    closed⟩

end System
end RecordFlow
