/-
# Permits — how many requests are in flight

A delivery takes a permit before each of its requests and gives it back when
the request has ended, whichever way it ends; it holds none while it waits for
its next attempt, nor when it has ended or crashed.  This is put as a code of
conduct, `passing`: a delivery is outside a request or inside it, and inside it
asks for nothing but how the request ends.  Calls and runs are apart.

What follows for all that is under way together is told by
`permits_accounted`: the permits that are free and the deliveries inside a
request add up to the permits there are.
-/
import RecordFlow.Proofs.Custody
import RecordFlow.Proofs.Endings

namespace RecordFlow

/-! ## Requests that leave the permits alone -/

namespace Request

/-- Requests that take a permit or give one back. -/
def isExchange : Request → Bool
  | beginExchange .. | endExchange _ => true
  | _ => false

/-- Requests that start work in the background. -/
def isStart : Request → Bool
  | start _ => true
  | _ => false

/-- What a delivery asks for beside its exchanges. -/
def isUpkeep : Request → Bool
  | now | publishDelivery _ | saveDelivery _ | log _ | pause .. | giveWay => true
  | _ => false

variable {r : Request}

theorem isExchange_of_isBrisk (h : r.isBrisk = true) : r.isExchange = false := by
  cases r <;> first | rfl | cases h

theorem isExchange_of_isMatching (h : r.isMatching = true) : r.isExchange = false := by
  cases r <;> first | rfl | cases h

theorem plain_of_isUpkeep (h : r.isUpkeep = true) : r.isExchange = false ∧ r.isStart = false := by
  cases r <;> first | exact ⟨rfl, rfl⟩ | cases h

end Request

namespace World

/-- Whether the client is closed, how many permits are free, and how many requests are in
flight. -/
def gate (w : World) : Bool × Nat × Nat := (w.clientClosed, w.permits, w.inFlight)

/-- Which of the work that has not begun are runs, in order. -/
def kinds (w : World) : List Bool := w.queue.map Background.isRun

/-- The gate, and the kinds of work that wait. -/
def desk (w : World) : (Bool × Nat × Nat) × List Bool := (w.gate, w.kinds)

theorem desk_storing {α : Type} {w : World} {answer : α} {after : Except Failure Unit × Store}
    {also : World → World} (h : ∀ v, (also v).desk = v.desk) :
    (w.storing answer after also).2.desk = w.desk :=
  storing_of_stored (P := fun v => v.desk = w.desk) rfl fun v same => (h v).trans same

theorem desk_patching (w : World) (t : String) (f : Adapter → Except Failure Adapter) :
    (w.patching t f).2.desk = w.desk :=
  patching_of_patched (P := fun v => v.desk = w.desk) rfl fun _ => rfl

theorem desk_noteSaved (d : Delivery) (w : World) : (noteSaved d w).desk = w.desk :=
  noteSaved_of_noted (P := fun v => v.desk = w.desk) rfl rfl

theorem desk_editWorkflow (w : World) (slot : Option Nat) (f : Workflow → Workflow) :
    (w.editWorkflow slot f).desk = w.desk := by
  refine congrArg (Prod.mk w.gate) ?_
  simp only [kinds, editWorkflow, List.map_map]
  refine List.map_congr_left fun work _ => ?_
  cases work <;> rfl

theorem desk_perform (w : World) {r : Request} (plain : r.isExchange = false ∧ r.isStart = false) :
    (w.perform r).2.desk = w.desk := by
  cases r with
  | recordRun id time =>
      simp only [perform, countRun]
      split
      · exact desk_editWorkflow w _ _
      · rfl
  | openExecution e => exact desk_storing fun _ => rfl
  | createExecution e => exact desk_storing fun _ => rfl
  | finishExecution e => exact desk_storing fun _ => rfl
  | advanceRotation id size =>
      exact advanceRotation_of_turned (P := fun v => v.desk = w.desk) rfl (fun _ _ _ => rfl)
        fun _ _ _ same => same
  | openDelivery d => exact desk_storing (desk_noteSaved _)
  | saveDelivery d => exact desk_storing (desk_noteSaved _)
  | fileDelivery d => exact desk_storing (desk_noteSaved _)
  | updateField t id field value => exact desk_patching ..
  | connectTag t id tag => exact desk_patching ..
  | disconnectTag t id tag => exact desk_patching ..
  | claim k =>
      simp only [perform]
      split <;> rfl
  | beginExchange | endExchange => cases plain.1
  | start work => cases plain.2
  | _ => rfl

theorem desk_answer (w : World) {r : Request} (plain : r.isExchange = false ∧ r.isStart = false) :
    (w.answer r).2.desk = w.desk :=
  answer_of_perform (P := fun v => v.desk = w.desk) (fun _ => rfl) fun faults =>
    desk_perform { w with faults } plain

theorem gate_answer (w : World) {r : Request} (plain : r.isExchange = false) :
    (w.answer r).2.gate = w.gate := by
  cases starts : r.isStart with
  | false => exact congrArg Prod.fst (w.desk_answer ⟨plain, starts⟩)
  | true =>
      cases r with
      | start work => rfl
      | _ => cases starts

theorem isReady_of_plain (w : World) {r : Request} (plain : r.isExchange = false) :
    w.isReady r = true := by
  cases r <;> first | rfl | cases plain

/-- A request of a client that is closed is refused, and takes no permit. -/
theorem gate_beginExchange (w : World) (d : Delivery) (headers : List (String × String))
    (content : String) :
    ((w.answer (.beginExchange d headers content)).1 = .error .clientClosed ∧
      w.clientClosed = true ∧ (w.answer (.beginExchange d headers content)).2.gate = w.gate) ∨
    ((w.answer (.beginExchange d headers content)).1 = .ok () ∧ w.clientClosed = false ∧
      (w.answer (.beginExchange d headers content)).2.gate
        = (false, w.permits - 1, w.inFlight + 1)) := by
  cases closed : w.clientClosed with
  | true =>
      refine .inl ?_
      simp [answer, isAddressed, unreachable?, closed]
  | false =>
      refine .inr ?_
      simp [answer, isAddressed, unreachable?, closed, Request.site?, perform, gate]

theorem kinds_answer (w : World) {r : Request} (quiet : r.isStart = false) :
    (w.answer r).2.kinds = w.kinds := by
  cases exchange : r.isExchange with
  | false => exact congrArg Prod.snd (w.desk_answer ⟨exchange, quiet⟩)
  | true =>
      cases r with
      | beginExchange d headers content =>
          rcases w.answer_cases (.beginExchange d headers content) with
            ⟨_, h⟩ | ⟨e, faults, h⟩ | ⟨faults, h⟩ <;> rw [h] <;> rfl
      | endExchange url => rfl
      | _ => cases exchange

end World

/-! ## The code -/

/-- Where a piece of work is with the client. -/
inductive Passage where
  /-- It is no delivery. -/
  | apart
  /-- A delivery is outside a request. -/
  | outside
  /-- A delivery is inside a request. -/
  | inside
deriving DecidableEq

namespace Passage

/-- Whether a permit is held in a phase. -/
def isInside : Passage → Bool
  | inside => true
  | _ => false

/-- No work ends inside a request. -/
def isEnd (p : Passage) : Prop := p.isInside = false

/-- The phases that suit work in the background. -/
def suits : Passage → Background → Prop
  | apart, work => work.isRun = true
  | _, work => work.isRun = false

/-- What may be asked in a phase. -/
def may : Passage → Request → Prop
  | apart, r => r.isExchange = false
  | outside, r => r.isUpkeep = true ∨ ∃ d headers content, r = .beginExchange d headers content
  | inside, r => ∃ url, r = .endExchange url

/-- The phase after an answer. -/
def next : Passage → (r : Request) → Except Failure r.Answer → Passage
  | outside, .beginExchange .., .ok _ => inside
  | inside, _, _ => outside
  | p, _, _ => p

end Passage

/-- The code by which permits are taken and given back. -/
def passing : Conduct Passage where
  may := Passage.may
  expects _ _ := True
  next := Passage.next

namespace Passage

open Prog (ask leads_bind leads_ask leads_ask_bind leads_attempt leads_ofExcept only_bind only_ask
  only_attempt only_pure only_map)

theorem next_apart (r : Request) (x : Except Failure r.Answer) :
    passing.next apart r x = apart := by
  cases r <;> rfl

theorem next_of_upkeep {r : Request} (upkeep : r.isUpkeep = true) (x : Except Failure r.Answer) :
    passing.next outside r x = outside := by
  cases r <;> first | rfl | cases upkeep

/-- Whoever sends asks for upkeep, or begins or ends a request. -/
theorem upkeep_or_exchange {p : Passage} {r : Request} (sends : p ≠ .apart)
    (allowed : passing.may p r) : r.isUpkeep = true ∨ r.isExchange = true := by
  cases p with
  | apart => exact absurd rfl sends
  | outside =>
      rcases allowed with upkeep | ⟨d, headers, content, rfl⟩
      · exact .inl upkeep
      · exact .inr rfl
  | inside =>
      obtain ⟨url, rfl⟩ := allowed
      exact .inr rfl

theorem leads_apart {α : Type} {m : Prog α} {wanted : Except Failure α → Passage → Prop}
    (h : m.Only fun r => r.isExchange = false) (ends : ∀ x, wanted x apart) :
    m.Leads passing wanted apart :=
  h.leads (fun r plain => ⟨plain, next_apart r⟩) ends

/-! ### Deliveries -/

/-- What a delivery does outside its requests leaves it outside. -/
theorem leads_outside {α : Type} {m : Prog α} {wanted : Except Failure α → Passage → Prop}
    (h : m.Only fun r => r.isUpkeep = true) (ends : ∀ x, wanted x outside) :
    m.Leads passing wanted outside :=
  h.leads (fun _ upkeep => ⟨.inl upkeep, next_of_upkeep upkeep⟩) ends

theorem only_giveUp (d : Delivery) : (Deliver.giveUp d).Only fun r => r.isUpkeep = true := by
  refine only_bind (only_ask rfl) fun now => only_bind (only_ask rfl) fun _ => ?_
  exact only_bind (only_ask rfl) fun _ => only_ask rfl

theorem only_arrive (d : Delivery) (status : Int) :
    (Deliver.arrive d status).Only fun r => r.isUpkeep = true := by
  refine only_bind (only_ask rfl) fun now => only_bind (only_ask rfl) fun _ => ?_
  exact only_bind (only_ask rfl) fun _ => only_ask rfl

theorem only_waitForNext (settings : Settings) (d : Delivery) (attempt : Nat) :
    (Deliver.waitForNext settings d attempt).Only fun r => r.isUpkeep = true := by
  refine only_bind (only_ask rfl) fun _ => only_bind (only_ask rfl) fun _ => ?_
  refine only_bind (only_ask rfl) fun _ => only_bind (Prog.only_ofExcept _) fun delay => ?_
  exact only_ask rfl

/-- A permit that is taken for a request is given back when the request has ended; where it is
refused, none was taken. -/
theorem leads_exchange (job : QueuedDelivery) (d : Delivery) :
    (Deliver.exchange job d).Leads passing (fun _ p => p = outside) outside := by
  refine leads_ask_bind (.inr ⟨d, job.headers, job.content, rfl⟩) (fun _ _ => rfl) ?_
  intro _ _
  exact leads_ask ⟨d.url, rfl⟩ fun _ _ => rfl

theorem leads_attempts (settings : Settings) (job : QueuedDelivery) (d : Delivery)
    (attempt left : Nat) :
    (Deliver.attempts settings job d attempt left).Leads passing (fun _ p => p = outside)
      outside := by
  induction left generalizing d attempt with
  | zero => exact leads_outside (only_giveUp d) fun _ => rfl
  | succ left ih =>
      refine leads_bind ((leads_outside (only_ask rfl) fun _ => rfl).mono ?_)
      rintro x p rfl
      cases x with
      | error f => exact rfl
      | ok _ =>
          refine leads_bind ((leads_exchange job _).mono ?_)
          rintro x p rfl
          cases x with
          | error f => exact rfl
          | ok outcome =>
              cases delivers : Deliver.delivering? outcome with
              | some status =>
                  simp only [Prog.Onward, delivers]
                  exact leads_outside (only_arrive _ status) fun _ => rfl
              | none =>
                  simp only [Prog.Onward, delivers]
                  refine leads_bind (leads_ofExcept ?_)
                  cases Deliver.trace (d.attempting attempt) outcome with
                  | error f => exact rfl
                  | ok missed =>
                      show Prog.Leads _ _ _ (if _ then _ else _)
                      split
                      · refine leads_bind ((leads_outside (only_waitForNext settings missed attempt)
                          fun _ => rfl).mono ?_)
                        rintro x p rfl
                        cases x with
                        | error f => exact rfl
                        | ok _ => exact ih _ _
                      · exact leads_outside (only_giveUp missed) fun _ => rfl

/-- A delivery ends outside its requests, also where it crashes. -/
theorem leads_deliver (settings : Settings) (job : QueuedDelivery) :
    (Deliver.background settings job).Leads passing (fun _ p => p = outside) outside := by
  refine leads_bind (leads_attempt ((leads_attempts settings job _ _ _).mono ?_))
  rintro x p rfl
  cases x with
  | ok _ => exact rfl
  | error f =>
      exact leads_outside (only_bind (only_ask rfl) fun _ => only_ask rfl) fun _ => rfl

/-! ### Everything else -/

/-- A run in the background asks for nothing of the client. -/
theorem apart_background (settings : Settings) (q : QueuedRun) :
    (Dispatch.background settings q).Only fun r => r.isExchange = false := by
  have ran := (Run.brisk_run settings q.workflow.record q.trigger q.context none).mono fun _ =>
    Request.isExchange_of_isBrisk
  refine only_bind (only_attempt ran) fun x => ?_
  cases x with
  | ok e => exact only_ask rfl
  | error f => exact only_bind (only_ask rfl) fun _ => only_ask rfl

/-- Nor does an errand. -/
theorem apart_errand (settings : Settings) (errand : Errand) :
    (errand.program settings).Only fun r => r.isExchange = false := by
  have brisk {α : Type} {m : Prog α} (h : m.Only fun r => r.isBrisk = true) :
      m.Only fun r => r.isExchange = false := h.mono fun _ => Request.isExchange_of_isBrisk
  have prompt {α : Type} {m : Prog α} (h : m.IsPrompt) : m.Only fun r => r.isExchange = false :=
    brisk (h.mono fun _ => Request.isBrisk_of_isPrompt)
  cases errand with
  | call c =>
      cases c with
      | dispatch kind context =>
          exact only_map _ (only_map _ ((Keeping.matches_dispatch kind context).mono fun _ =>
            Request.isExchange_of_isMatching))
      | run id trigger context triggeredBy =>
          exact only_map _ (only_map _ (brisk (Run.brisk_runById settings id trigger context _)))
  | act site action => exact only_map _ (prompt (Runner.isPrompt_execute site action))
  | submit url method actionId workflowId executionId headers content =>
      exact only_map _ (prompt (Runner.isPlain_submit _ headers content).isPrompt)

/-- The phase in which work in the background begins. -/
def begins : Background → Passage
  | .run _ => apart
  | .delivery _ => outside

theorem suits_begins (work : Background) : (begins work).suits work := by
  cases work <;> rfl

theorem leads_work (settings : Settings) (work : Background) :
    (work.program settings).Leads passing (fun _ => isEnd) (begins work) := by
  cases work with
  | run q => exact leads_apart (apart_background settings q) fun _ => rfl
  | delivery job =>
      refine (leads_deliver settings job).mono ?_
      rintro x p rfl
      exact rfl

theorem suits_next {p : Passage} {r : Request} (x : Except Failure r.Answer) {work : Background}
    (allowed : may p r) (suits : p.suits work) : (next p r x).suits work := by
  cases p with
  | apart => rwa [show next apart r x = apart from next_apart r x]
  | inside => exact suits
  | outside =>
      rcases allowed with upkeep | ⟨d, headers, content, rfl⟩
      · rwa [show next outside r x = outside from next_of_upkeep upkeep x]
      · cases x <;> exact suits

end Passage

/-! ## The invariant -/

/-- The permits that are free and those that are held are all there are, and each that is held is
for one request in flight. -/
structure Passing (permits : Nat) (w : World) (ps : List Passage) : Prop where
  held : w.permits + ps.countP Passage.isInside = permits
  inFlight : w.inFlight = ps.countP Passage.isInside

namespace Passing

variable {n : Nat} {w w' : World} {front back ps : List Passage} {p q : Passage} {r : Request}

theorem elsewhere (h : Passing n w ps) (permits : w'.permits = w.permits)
    (inFlight : w'.inFlight = w.inFlight) : Passing n w' ps :=
  ⟨permits.symm ▸ h.held, inFlight.trans h.inFlight⟩

/-- Neither a permit is taken nor is one given back. -/
theorem stay (h : Passing n w (front ++ p :: back)) (gate : w'.gate = w.gate)
    (same : q.isInside = p.isInside) : Passing n w' (front ++ q :: back) := by
  have count : (front ++ q :: back).countP Passage.isInside
      = (front ++ p :: back).countP Passage.isInside :=
    countP_middle_congr same
  have here : Passing n w' (front ++ p :: back) :=
    h.elsewhere (congrArg (fun gate => gate.2.1) gate) (congrArg (fun gate => gate.2.2) gate)
  exact ⟨count ▸ here.held, here.inFlight.trans count.symm⟩

theorem enter (h : Passing n w (front ++ .outside :: back)) (free : w.permits ≠ 0)
    (permits : w'.permits = w.permits - 1) (inFlight : w'.inFlight = w.inFlight + 1) :
    Passing n w' (front ++ .inside :: back) := by
  have before := countP_middle Passage.isInside front back .outside
  have after := countP_middle Passage.isInside front back .inside
  have held := h.held
  have flying := h.inFlight
  simp only [Passage.isInside, Bool.false_eq_true, if_false, if_true] at before after
  constructor <;> omega

theorem leave (h : Passing n w (front ++ .inside :: back)) (permits : w'.permits = w.permits + 1)
    (inFlight : w'.inFlight = w.inFlight - 1) : Passing n w' (front ++ .outside :: back) := by
  have before := countP_middle Passage.isInside front back .inside
  have after := countP_middle Passage.isInside front back .outside
  have held := h.held
  have flying := h.inFlight
  simp only [Passage.isInside, Bool.false_eq_true, if_false, if_true] at before after
  constructor <;> omega

/-- A request that is answered, and is not made to wait for a permit. -/
theorem answered (h : Passing n w (front ++ p :: back)) (allowed : passing.may p r)
    (ready : w.isReady r = true) :
    Passing n (w.answer r).2 (front ++ passing.next p r (w.answer r).1 :: back) := by
  cases p with
  | apart =>
      rw [Passage.next_apart]
      exact h.stay (w.gate_answer allowed) rfl
  | outside =>
      rcases allowed with upkeep | ⟨d, headers, content, rfl⟩
      · rw [Passage.next_of_upkeep upkeep]
        exact h.stay (w.gate_answer (Request.plain_of_isUpkeep upkeep).1) rfl
      · rcases w.gate_beginExchange d headers content with ⟨refused, _, gate⟩ | ⟨taken, _, gate⟩
        · rw [refused]
          exact h.stay gate rfl
        · rw [taken]
          exact h.enter (by simpa [World.isReady] using ready)
            (congrArg (fun gate => gate.2.1) gate) (congrArg (fun gate => gate.2.2) gate)
  | inside =>
      obtain ⟨url, rfl⟩ := allowed
      exact h.leave rfl rfl

theorem begun (h : Passing n w ps) (queue : List Background) (work : Background) :
    Passing n { w with queue } (ps ++ [Passage.begins work]) := by
  have none : [Passage.begins work].countP Passage.isInside = 0 := by
    cases work <;> rfl
  have count : (ps ++ [Passage.begins work]).countP Passage.isInside
      = ps.countP Passage.isInside := by
    rw [List.countP_append, none, Nat.add_zero]
  exact ⟨count.symm ▸ h.held, h.inFlight.trans count.symm⟩

end Passing

/-! ## Systems -/

/-- Whether a program is inside a request. -/
def Prog.isExchanging {α : Type} : Prog α → Bool
  | .call (.endExchange _) _ => true
  | _ => false

/-- Who keeps to the code is inside a request just where it is to ask how the request ends. -/
theorem Passage.isInside_eq {α : Type} {m : Prog α} {p : Passage}
    (leads : m.Leads passing (fun _ => isEnd) p) : p.isInside = m.isExchanging := by
  cases m with
  | done a => exact leads
  | fail e => exact leads
  | call r rest =>
      have allowed := leads.1
      cases p with
      | apart => cases r <;> first | rfl | cases allowed
      | outside =>
          rcases allowed with upkeep | ⟨d, headers, content, rfl⟩
          · cases r <;> first | rfl | cases upkeep
          · rfl
      | inside =>
          obtain ⟨url, rfl⟩ := allowed
          rfl

/-- What may happen to a world besides, as far as permits are concerned: the client may be made to
answer in any way, or be closed. -/
structure World.AmidPermits (w w' : World) : Prop where
  permits : w'.permits = w.permits
  inFlight : w'.inFlight = w.inFlight

namespace System

/-- How many tasks are inside a request. -/
def exchanging {α : Type} (s : System α) : Nat := s.tasks.countP (·.left.isExchanging)

/-- An engine has been put together, nothing is in flight, and errands are about to begin. -/
structure IsAssembled (e : Engine) (s : System Unit) : Prop where
  assembled : ∃ world, Engine.assemble e.settings e.ownsClient world = .ok e
  world : s.world = e.world
  inFlight : e.world.inFlight = 0
  calls : ∀ c ∈ s.calls, ∃ errand : Errand, c = errand.program e.settings
  tasks : s.tasks = []

theorem IsAssembled.permits {e : Engine} {s : System Unit} (h : s.IsAssembled e) :
    (s.world.permits : Int) = e.settings.webhookMaxConcurrency := by
  obtain ⟨world, assembled⟩ := h.assembled
  unfold Engine.assemble at assembled
  split at assembled
  · cases assembled
  · rename_i atLeast
    have permits := congrArg (fun e : Engine => e.world.permits) (Except.ok.inj assembled)
    rw [h.world, ← permits]
    exact Int.toNat_of_nonneg (Int.not_lt.mp atLeast)

/-- All work keeps to the code, calls stay apart, and the permits are accounted for. -/
def Admits (permits : Nat) (s : System Unit) : Prop :=
  Attended passing Passage.isEnd Passage.suits
    (fun w ps => Passing permits w ps ∧ Fronted (· = .apart) s.calls.length ps) s

variable {settings : Settings} {n : Nat} {start s t : System Unit}

theorem Admits.of_isAssembled {e : Engine} (h : s.IsAssembled e) : s.Admits s.world.permits := by
  have none : (List.replicate s.calls.length Passage.apart).countP Passage.isInside = 0 := by
    rw [List.countP_replicate]
    rfl
  refine Attended.of_start .apart ?_ h.tasks ⟨⟨?_, ?_⟩, by simp, ?_⟩
  · intro c hc
    obtain ⟨errand, rfl⟩ := h.calls c hc
    exact Passage.leads_apart (Passage.apart_errand e.settings errand) fun _ => rfl
  · rw [none, Nat.add_zero]
  · rw [none, h.world, h.inFlight]
  · intro p hp
    exact List.eq_of_mem_replicate (List.mem_of_mem_take hp)

theorem Admits.step {outside : World → World → Prop}
    (amid : ∀ w w', outside w w' → w.AmidPermits w') (h : s.Admits n)
    (move : Step settings outside s t) : t.Admits n := by
  have kept {p : Passage} {r : Request} (x : Except Failure r.Answer) (apart : p = .apart) :
      passing.next p r x = .apart := by
    rw [apart, Passage.next_apart]
  cases move with
  | call w before after tasks r rest ready =>
      obtain ⟨front, p, back, _, ⟨tied, fronted⟩, allowed, onward⟩ := h.atCall
      refine onward _ trivial ⟨tied.answered allowed ready, ?_⟩
      simpa using fronted.change (kept _)
  | task w calls before after work r rest ready =>
      obtain ⟨front, p, back, ⟨tied, fronted⟩, allowed, suited, onward⟩ := h.atTask
      exact onward _ trivial (Passage.suits_next _ allowed suited)
        ⟨tied.answered allowed ready, fronted.change (kept _)⟩
  | «begin» w calls tasks before after work queued =>
      obtain ⟨ps, ⟨tied, fronted⟩, onward⟩ := h.atBegin { w with queue := before ++ after } work
      exact onward _ (Passage.begins work) (Passage.suits_begins work)
        (Passage.leads_work settings work) ⟨tied.begun _ work, fronted.append _⟩
  | change w w' calls tasks allowed =>
      obtain ⟨ps, ⟨tied, fronted⟩, onward⟩ := h.atChange w'
      have still := amid w w' allowed
      exact onward _ ⟨tied.elsewhere still.permits still.inFlight, fronted⟩

theorem Admits.of_reachable {outside : World → World → Prop}
    (amid : ∀ w w', outside w w' → w.AmidPermits w') (h : start.Admits n)
    (reachable : Reachable settings outside start s) : s.Admits n :=
  reachable.keeps h fun _ _ move h => h.step amid move

/-! ### What is seen of it -/

theorem Admits.leads_apart (h : s.Admits n) :
    ∀ c ∈ s.calls, c.Leads passing (fun _ => Passage.isEnd) .apart := by
  obtain ⟨calls, tasks, hcalls, _, keepCalls, _, _, fronted⟩ := h
  intro c hc
  rw [hcalls] at hc
  obtain ⟨x, hx, rfl⟩ := List.mem_map.mp hc
  rw [hcalls, List.length_map, ← List.length_map (f := Prod.fst)] at fronted
  rw [← fronted.forall_mem x.1 (List.mem_map_of_mem hx)]
  exact keepCalls x hx

theorem Admits.apart (h : s.Admits n) : ∀ c ∈ s.calls, c.isExchanging = false := by
  intro c hc
  rw [← Passage.isInside_eq (h.leads_apart c hc)]
  rfl

theorem Admits.delivers (h : s.Admits n) :
    ∀ t ∈ s.tasks, t.left.isExchanging = true → t.work.isRun = false := by
  obtain ⟨calls, tasks, _, htasks, _, keepTasks, _, _⟩ := h
  intro t ht exchanging
  rw [htasks] at ht
  obtain ⟨x, hx, rfl⟩ := List.mem_map.mp ht
  obtain ⟨leads, suits⟩ := keepTasks x hx
  rw [← Passage.isInside_eq leads] at exchanging
  cases phase : x.1 with
  | inside => simpa [phase, Passage.suits] using suits
  | _ => simp [phase, Passage.isInside] at exchanging

theorem Admits.adds_up (h : s.Admits n) :
    s.world.permits + s.exchanging = n ∧ s.world.inFlight = s.exchanging := by
  have apart := h.apart
  obtain ⟨calls, tasks, hcalls, htasks, keepCalls, keepTasks, tied, _⟩ := h
  have outside : (calls.map Prod.fst).countP Passage.isInside = 0 := by
    rw [List.countP_map, List.countP_eq_zero]
    intro x hx
    have there := apart x.2 (hcalls ▸ List.mem_map_of_mem hx)
    simp [Passage.isInside_eq (keepCalls x hx), there]
  have inside : (tasks.map Prod.fst).countP Passage.isInside = s.exchanging := by
    rw [exchanging, htasks, List.countP_map, List.countP_map]
    exact List.countP_congr fun x hx => by simp [Passage.isInside_eq (keepTasks x hx).1]
  have held := tied.held
  have inFlight := tied.inFlight
  rw [List.countP_append, outside, inside, Nat.zero_add] at held inFlight
  exact ⟨held, inFlight⟩

/-- However errands, runs and deliveries interleave, and whatever the client makes of the requests:
those in flight are as many as there are deliveries inside a request, which hold all permits that
are not free; so there are never more than may be, no permit is held outside a request, and who has
to wait for one waits for deliveries that are inside. -/
theorem permits_accounted {e : Engine} (assembled : start.IsAssembled e)
    (reachable : Reachable e.settings World.AmidPermits start s) :
    (s.world.inFlight : Int) ≤ e.settings.webhookMaxConcurrency ∧
      s.world.inFlight = s.exchanging ∧
      (s.world.permits + s.exchanging : Int) = e.settings.webhookMaxConcurrency ∧
      (∀ c ∈ s.calls, c.isExchanging = false) ∧
      (∀ t ∈ s.tasks, t.left.isExchanging = true → t.work.isRun = false) ∧
      ∀ r, s.world.isReady r = false →
        (s.exchanging : Int) = e.settings.webhookMaxConcurrency := by
  have admits := (Admits.of_isAssembled assembled).of_reachable (fun _ _ => id) reachable
  obtain ⟨held, inFlight⟩ := admits.adds_up
  have permits := assembled.permits
  refine ⟨by omega, inFlight, by omega, admits.apart, admits.delivers, ?_⟩
  intro r waits
  have none : s.world.permits = 0 := by
    cases r with
    | beginExchange d headers content => simpa [World.isReady] using waits
    | _ => cases waits
  omega

/-- An engine that has one permit. -/
def narrow : Engine where
  settings := { webhookMaxConcurrency := 1 }
  world := { permits := 1 }

/-- Over one permit, the same address is to be told twice. -/
def hookedTwice : System Unit where
  world := narrow.world
  calls := [hook.program narrow.settings, hook.program narrow.settings]
  tasks := []

theorem hookedTwice_isAssembled : hookedTwice.IsAssembled narrow where
  assembled := ⟨narrow.world, rfl⟩
  world := rfl
  inFlight := rfl
  calls c hc := ⟨hook, by simpa [hookedTwice] using hc⟩
  tasks := rfl

/-- One delivery is inside its request, and the other has to wait. -/
theorem hookedTwice_waits :
    ∃ s, Reachable narrow.settings World.AmidPermits hookedTwice s ∧ s.tasks.length = 2 ∧
      s.exchanging = 1 ∧ s.world.inFlight = 1 ∧
      s.world.isReady (.beginExchange hookJob.delivery [] hookJob.content) = false := by
  have waiting : Reachable narrow.settings World.AmidPermits hookedTwice hookedTwice := .refl
  have first := waiting.runCall [] [hook.program narrow.settings] rfl
  have second := first.runCall [_] [] rfl
  have begun := (second.step (.begin _ _ _ [] _ _ rfl)).step (.begin _ _ _ [] _ _ rfl)
  have shown := begun.step (.task _ _ [] _ _ (.publishDelivery _) _ rfl)
  have inside := shown.step (.task _ _ [] _ _ (.beginExchange _ _ _) _ rfl)
  obtain ⟨_, inFlight, _, _, _, full⟩ := permits_accounted hookedTwice_isAssembled inside
  have one := Int.ofNat.inj (full (.beginExchange hookJob.delivery [] hookJob.content) rfl)
  exact ⟨_, inside, rfl, one, inFlight.trans one, rfl⟩

end System
end RecordFlow
