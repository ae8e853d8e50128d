/-
# Course — a run from its opening to what is told of it

A run opens its entry, tells the bus that it has started, goes through its
actions, closes the entry, has the store keep the end, has itself counted, and
tells the bus how it ended.  Where its loop over the actions is left by a
failure it is not counted.  Where the store refuses the end or the count, the
run is lost: nothing more is told of it.

This order of steps is a code of conduct, `coursing`.  It has two readings: one
for any runner, and one for a steady runner, whose entering never fails, with
which every run is counted before its end is told.

Whether a run is in progress is read off the programs under way, without their
phases: `Pursues`.  Work that keeps to the code pursues a run just in the phases
before the last: `Course.pursues` and `Course.of_pursues`.
-/
import RecordFlow.Proofs.Rounds

namespace RecordFlow

/-! ## The requests of a run's own -/

namespace Request

/-- What a run asks beside its actions: to write its entry, to be counted, and that the bus is
told. -/
def isBooking : Request → Bool
  | openExecution _ | createExecution _ | publishExecution _ | finishExecution _ => true
  | recordRun .. | emit .. => true
  | _ => false

/-- Requests that store an entry that was not there. -/
def isOpening : Request → Bool
  | openExecution _ | createExecution _ => true
  | _ => false

/-- Whether a request writes or tells of the entry with an identifier, once it is open. -/
def concerns (id : RecordId) : Request → Prop
  | publishExecution e | finishExecution e | emit _ e => e.id = id
  | _ => False

/-- What has the store keep the end of a run, or count it. -/
def isSettling : Request → Bool
  | finishExecution _ | recordRun .. => true
  | _ => false

/-- What a run cannot do without of the store and of the bus: that its entry is opened, that its end
is kept and counted, and that the bus is told. -/
def isStaple : Request → Bool
  | openExecution _ | emit .. => true
  | r => r.isSettling

/-- What a run cannot do without, the runner included. -/
def isVital : Request → Bool
  | enterRunner => true
  | r => r.isStaple

variable {r : Request}

theorem isBooking_of_isOfAction (h : r.isOfAction = true) : r.isBooking = false := by
  cases r <;> first | rfl | cases h

theorem isBooking_of_isMatching (h : r.isMatching = true) : r.isBooking = false := by
  cases r <;> first | rfl | cases h

theorem not_concerns_of_plain {id : RecordId} (plain : r.isBooking = false) : ¬ r.concerns id := by
  cases r <;> first | exact not_false | cases plain

theorem isOpening_of_plain (plain : r.isBooking = false) : r.isOpening = false := by
  cases r <;> first | rfl | cases plain

theorem writesEntry_of_plain (plain : r.isBooking = false) : r.writesEntry = false := by
  cases r <;> first | rfl | cases plain

theorem nonempty_answer (r : Request) : Nonempty r.Answer := by
  cases r <;> exact ⟨default⟩

end Request

/-- A program pursues the run with an identifier: unless something fails it goes on, before it opens
an entry of its own, to write or to tell of that of the run. -/
def Prog.Pursues {α : Type} (id : RecordId) : Prog α → Prop
  | .done _ | .fail _ => False
  | .call r rest => r.concerns id ∨ r.isOpening = false ∧ ∃ a, Pursues id (rest (.ok a))

theorem Prog.not_pursues_ofExcept {α : Type} {id : RecordId} (x : Except Failure α) :
    ¬ (ofExcept x).Pursues id := by
  cases x <;> exact not_false

namespace Execution

/-- A run has ended, one way or the other, at some time. -/
structure IsShut (e : Execution) : Prop where
  status : e.status = .known .completed ∨ e.status = .known .failed
  time : ∃ t, e.completedAt = some t

/-- What the bus is told of a run that has ended. -/
def ending (e : Execution) : RunEvent := if e.isCompleted then .completed else .failed

variable {e : Execution}

theorem IsShut.finished (h : e.IsShut) : e.isFinished = true := by
  rcases h.status with status | status <;> simp [isFinished, status]

theorem isShut_closeFailed (e : Execution) (said : Option String) (now : Instant) :
    (e.closeFailed said now).IsShut := ⟨.inr rfl, now, rfl⟩

theorem isShut_closeCompleted (e : Execution) (now : Instant) : (e.closeCompleted now).IsShut :=
  ⟨.inl rfl, now, rfl⟩

end Execution

/-! ## The code -/

/-- How far a piece of work has come with a run. -/
inductive Course where
  /-- It has no entry. -/
  | silent
  /-- The entry has been opened, and the bus is to be told. -/
  | opened (e : Execution)
  /-- The bus has been told, and the actions are gone through. -/
  | going (e : Execution)
  /-- The entry has been closed, and the store is to keep the end. -/
  | closed (e : Execution)
  /-- The store keeps the end; whether the run has been counted. -/
  | ended (e : Execution) (counted : Bool)
  /-- The bus has been told of the end. -/
  | told (e : Execution)
  /-- The store has refused the end or the count. -/
  | lost (e : Execution)

namespace Course

/-- The entry as it was last shown. -/
def shown? : Course → Option Execution
  | silent => none
  | opened e | going e | closed e | ended e _ | told e | lost e => some e

/-- The entry of a run that is in progress. -/
def owed? : Course → Option Execution
  | opened e | going e | closed e | ended e _ => some e
  | silent | told _ | lost _ => none

theorem shown?_of_owed? {p : Course} {e : Execution} (owed : p.owed? = some e) :
    p.shown? = some e := by
  cases p <;> first | exact owed | cases owed

/-- Whether something else may be asked in between. -/
def rests : Course → Bool
  | opened _ | closed _ => false
  | _ => true

/-- No work ends while its run is in progress. -/
def isEnd (p : Course) : Prop := p.owed? = none

/-- An entry is that of another, further on. -/
structure Follows (e e' : Execution) : Prop where
  id : e'.id = e.id
  workflowId : e'.workflowId = e.workflowId

theorem Follows.trans {e e' e'' : Execution} (h : Follows e e') (h' : Follows e' e'') :
    Follows e e'' := ⟨h'.id.trans h.id, h'.workflowId.trans h.workflowId⟩

/-- What may be asked in a phase. -/
inductive May (steady : Bool) : Course → Request → Prop where
  | plain {p : Course} {r : Request} (plain : r.isBooking = false) (rests : p.rests = true) :
      May steady p r
  | opens {e : Execution} (running : e.status = .known .running) :
      May steady silent (.openExecution e)
  | starts {e : Execution} : May steady (opened e) (.emit .started e)
  | shows {e e' : Execution} (follows : Follows e e') (running : e'.status = .known .running) :
      May steady (going e) (.publishExecution e')
  | closes {e e' : Execution} (follows : Follows e e') (shut : e'.IsShut) :
      May steady (going e) (.publishExecution e')
  | finishes {e : Execution} : May steady (closed e) (.finishExecution e)
  | counts {e : Execution} {t : Instant} (completedAt : e.completedAt = some t) :
      May steady (ended e false) (.recordRun e.workflowId t)
  | tells {e : Execution} {counted : Bool} (sure : steady = true → counted = true) :
      May steady (ended e counted) (.emit e.ending e)

/-- The answers to reckon with: the clock, the log and the bus do not fail, an entry is shown as it
is to be and opened under an identifier that was issued, and a steady runner is entered. -/
def expects (steady : Bool) : (r : Request) → Except Failure r.Answer → Prop
  | .now, .error _ | .log _, .error _ | .publishExecution _, .error _ | .emit .., .error _ => False
  | .enterRunner, .error _ => steady = false
  | .openExecution e, .ok e' => ∃ n, e' = { e with id := .issued n }
  | _, _ => True

/-- The phase after an answer. -/
def next : Course → (r : Request) → Except Failure r.Answer → Course
  | silent, .openExecution _, .ok e => opened e
  | opened e, .emit .., .ok _ => going e
  | going _, .publishExecution e, _ => if e.isFinished then closed e else going e
  | closed e, .finishExecution _, .ok _ => ended e false
  | closed e, .finishExecution _, .error _ => lost e
  | ended e _, .recordRun .., .ok _ => ended e true
  | ended e _, .recordRun .., .error _ => lost e
  | ended e _, .emit .., .ok _ => told e
  | p, _, _ => p

end Course

/-- The code by which a run takes its course. -/
def coursing (steady : Bool) : Conduct Course where
  may := Course.May steady
  expects := Course.expects steady
  next := Course.next

namespace Course

open Prog (ask leads_bind leads_attempt leads_ask_bind leads_stay_bind leads_map only_bind only_ask
  only_attempt only_map only_pure)

variable {steady : Bool} {p : Course} {e : Execution} {r : Request}

theorem next_of_plain (plain : r.isBooking = false) (x : Except Failure r.Answer) :
    (coursing steady).next p r x = p := by
  cases r <;> first | (cases p <;> rfl) | cases plain

theorem expects_of_not_opening (notOpening : r.isOpening = false) (a : r.Answer) :
    (coursing steady).expects r (.ok a) := by
  cases r <;> trivial

theorem next_shown {e' : Execution} (running : e'.status = .known .running)
    (x : Except Failure (Request.publishExecution e').Answer) :
    (coursing steady).next (going e) (.publishExecution e') x = going e' := by
  simp [coursing, next, Execution.isFinished, running]

theorem next_closed {e' : Execution} (shut : e'.IsShut)
    (x : Except Failure (Request.publishExecution e').Answer) :
    (coursing steady).next (going e) (.publishExecution e') x = closed e' := by
  simp [coursing, next, shut.finished]

/-! ### Programs -/

section

variable {α β : Type}

/-- What is no business of a run's own may fail, and else the rest goes on in the same phase. -/
theorem leads_plain_bind {rest : r.Answer → Prog β} {wanted : Except Failure β → Course → Prop}
    (plain : r.isBooking = false) (rests : p.rests = true)
    (fails : ∀ f, (coursing steady).expects r (.error f) → wanted (.error f) p)
    (goesOn : ∀ a, (rest a).Leads (coursing steady) wanted p) :
    (ask r >>= rest).Leads (coursing steady) wanted p :=
  leads_stay_bind (.plain plain rests) (next_of_plain plain) fails fun a _ => goesOn a

/-- A program that has no such business keeps to the code. -/
theorem leads_only {m : Prog α} {wanted : Except Failure α → Course → Prop}
    (h : m.Only fun r => r.isBooking = false) (rests : p.rests = true) (ends : ∀ x, wanted x p) :
    m.Leads (coursing steady) wanted p :=
  h.leads (fun _ plain => ⟨.plain plain rests, next_of_plain plain⟩) ends

end

/-- An action leaves a run where it is, and comes to an outcome if the runner is steady. -/
theorem leads_execute (site : Runner.Site) (action : Action) :
    (Runner.execute site action).Leads (coursing steady)
      (fun x q => q = going e ∧ (steady = true → ∃ o, x = .ok o)) (going e) := by
  refine leads_plain_bind rfl rfl ?_ fun _ => ?_
  · intro f rough
    exact ⟨rfl, fun calm => by cases calm.symm.trans rough⟩
  · cases action.kind with
    | foreign word => exact leads_plain_bind rfl rfl nofun fun _ => ⟨rfl, fun _ => ⟨_, rfl⟩⟩
    | known kind =>
        have asks := (Runner.passes_attempted site action kind).only.mono fun _ =>
          Request.isBooking_of_isOfAction
        refine leads_bind (leads_attempt (leads_only asks rfl fun x => ?_))
        cases x with
        | ok x => exact ⟨rfl, fun _ => ⟨_, rfl⟩⟩
        | error f => exact leads_plain_bind rfl rfl nofun fun _ => ⟨rfl, fun _ => ⟨_, rfl⟩⟩

/-- Where the loop over the actions leaves a run; a steady runner never has it raised. -/
inductive LoopEnds (steady : Bool) (e : Execution) :
    Except Failure Run.Progress → Course → Prop where
  | through {e' : Execution} (follows : Follows e e') :
      LoopEnds steady e (.ok (.through e')) (going e')
  | stopped {e' : Execution} (follows : Follows e e') (o : ActionOutcome) (said : Option String) :
      LoopEnds steady e (.ok (.stopped (e'.append o) said)) (going e')
  | raised {e' : Execution} (follows : Follows e e') (rough : steady = false) (f : Failure) :
      LoopEnds steady e (.ok (.raised e' f)) (going e')

theorem leads_runActions (site : Runner.Site) (actions : List Action) (e₀ : Execution)
    (follows : Follows e₀ e) (running : e.status = .known .running) :
    (Run.runActions site actions e).Leads (coursing steady) (LoopEnds steady e₀) (going e) := by
  induction actions generalizing e with
  | nil => exact .through follows
  | cons a actions ih =>
      refine leads_bind (leads_attempt ((leads_execute site a).mono ?_))
      rintro x q ⟨rfl, comes⟩
      cases x with
      | error f =>
          refine .raised follows ?_ f
          rw [← Bool.not_eq_true]
          intro calm
          obtain ⟨o, no⟩ := comes calm
          cases no
      | ok o =>
          show Prog.Leads _ _ _ (if o.status = .failed then _ else _)
          split
          · exact .stopped follows o _
          · refine leads_ask_bind (.shows ⟨rfl, rfl⟩ running) (fun _ no => no.elim) ?_
            intro _ _
            have still : (e.append o).status = .known .running := running
            rw [next_shown still]
            exact ih (follows.trans ⟨rfl, rfl⟩) running

/-- A run that shows its entry closed goes on from there. -/
theorem leads_close {α : Type} {e' : Execution} {rest : Unit → Prog α} (follows : Follows e e')
    (shut : e'.IsShut) (goesOn : (rest ()).Leads (coursing steady) (fun _ => isEnd) (closed e')) :
    (ask (.publishExecution e') >>= rest).Leads (coursing steady) (fun _ => isEnd) (going e) := by
  refine leads_ask_bind (.closes follows shut) (fun _ no => no.elim) ?_
  intro _ _
  rw [next_closed shut]
  exact goesOn

theorem leads_finishEntry {α : Type} {rest : Execution → Prog α}
    (goesOn : ∀ x, (rest x).Leads (coursing steady) (fun _ => isEnd) (ended e false)) :
    (ask (.finishExecution e) >>= rest).Leads (coursing steady) (fun _ => isEnd) (closed e) :=
  leads_ask_bind .finishes (fun _ _ => rfl) fun x _ => goesOn x

theorem leads_finish {e' : Execution} (follows : Follows e e') (shut : e'.IsShut) :
    (Run.finish e.workflowId e').Leads (coursing steady) (fun _ => isEnd) (going e) := by
  obtain ⟨t, completedAt⟩ := shut.time
  refine leads_close follows shut (leads_finishEntry fun _ => ?_)
  have counts : (coursing steady).may (ended e' false)
      (.recordRun e.workflowId (e'.completedAt.getD default)) := by
    rw [← follows.workflowId, completedAt, Option.getD_some]
    exact .counts completedAt
  refine leads_ask_bind counts (fun _ _ => rfl) fun _ _ => ?_
  refine leads_plain_bind rfl rfl nofun fun _ => ?_
  exact leads_ask_bind (.tells fun _ => rfl) (fun _ no => no.elim) fun _ _ => rfl

/-- A run whose loop was raised is not counted. -/
theorem leads_abort (workflowId : Uid) (rough : steady = false) (f : Failure) :
    (Run.abort workflowId e f).Leads (coursing steady) (fun _ => isEnd) (going e) := by
  refine leads_plain_bind rfl rfl nofun fun _ => leads_plain_bind rfl rfl nofun fun now => ?_
  refine leads_close ⟨rfl, rfl⟩ (e.isShut_closeFailed _ now) (leads_finishEntry fun _ => ?_)
  have tells : (coursing steady).may (ended (e.closeFailed (some f.report) now) false)
      (.emit .failed (e.closeFailed (some f.report) now)) :=
    .tells fun calm => by cases calm.symm.trans rough
  exact leads_ask_bind tells (fun _ no => no.elim) fun _ _ => rfl

theorem leads_run (settings : Settings) (workflow : Workflow) (trigger : Open TriggerKind)
    (context : Context) (triggeredBy : Option String) :
    (Run.run settings workflow trigger context triggeredBy).Leads (coursing steady)
      (fun _ => isEnd) silent := by
  refine leads_plain_bind rfl rfl nofun fun now => ?_
  refine leads_ask_bind (.opens rfl) (fun _ _ => rfl) ?_
  rintro e ⟨n, rfl⟩
  refine leads_ask_bind .starts (fun _ no => no.elim) fun _ _ => ?_
  refine leads_bind ((leads_runActions _ _ _ ⟨rfl, rfl⟩ rfl).mono ?_)
  intro x p ended
  cases ended with
  | through follows =>
      refine leads_plain_bind rfl rfl nofun fun now => ?_
      rw [← show _ = workflow.id from follows.workflowId]
      exact leads_finish ⟨rfl, rfl⟩ (Execution.isShut_closeCompleted _ now)
  | stopped follows o said =>
      refine leads_plain_bind rfl rfl nofun fun now => ?_
      rw [← show _ = workflow.id from follows.workflowId]
      exact leads_finish ⟨rfl, rfl⟩ (Execution.isShut_closeFailed _ _ now)
  | raised follows rough f => exact leads_abort workflow.id rough f

theorem leads_runById (settings : Settings) (id : Uid) (trigger : Open TriggerKind)
    (context : Context) (triggeredBy : Option String) :
    (Run.runById settings id trigger context triggeredBy).Leads (coursing steady)
      (fun _ => isEnd) silent :=
  Run.leads_runById (.plain rfl rfl) (fun _ => rfl) rfl fun workflow =>
    leads_run settings workflow trigger context triggeredBy

theorem rests_of_isEnd (h : p.isEnd) : p.rests = true := by
  cases p <;> first | rfl | cases h

/-- A delivery has no such business. -/
theorem isBooking_of_passing {p : Passage} (sends : p ≠ .apart) (allowed : passing.may p r) :
    r.isBooking = false := by
  rcases Passage.upkeep_or_exchange sends allowed with upkeep | exchange
  · cases r <;> first | rfl | cases upkeep
  · cases r <;> first | rfl | cases exchange

/-- Whatever runs in the background keeps to the code. -/
theorem leads_work (settings : Settings) (work : Background) :
    (work.program settings).Leads (coursing steady) (fun _ => isEnd) silent := by
  cases work with
  | run q =>
      refine leads_bind (leads_attempt ((leads_run settings q.workflow.record q.trigger q.context
        none).mono ?_))
      intro x p ended
      have release : (ask (.release q.key)).Leads (coursing steady) (fun _ => isEnd) p :=
        leads_only (only_ask rfl) (rests_of_isEnd ended) fun _ => ended
      cases x with
      | ok e => exact release
      | error f =>
          exact leads_plain_bind rfl (rests_of_isEnd ended) nofun fun _ => release
  | delivery job =>
      refine leads_only ?_ rfl fun _ => rfl
      refine (Passage.leads_deliver settings job).only (· ≠ .apart) nofun ?_ fun _ _ => trivial
      intro p r sends allowed
      exact ⟨isBooking_of_passing sends allowed, Prog.next_ne_apart sends r⟩

/-- Whatever is called for keeps to the code. -/
theorem leads_errand (settings : Settings) (errand : Errand) :
    (errand.program settings).Leads (coursing steady) (fun _ => isEnd) silent := by
  have plain {m : Prog Unit} (h : m.Only fun r => r.isBooking = false) :
      m.Leads (coursing steady) (fun _ => isEnd) silent := leads_only h rfl fun _ => rfl
  cases errand with
  | call c =>
      cases c with
      | dispatch kind context =>
          exact plain (only_map _ (only_map _ ((Keeping.matches_dispatch kind context).mono fun _ =>
            Request.isBooking_of_isMatching)))
      | run id trigger context triggeredBy =>
          exact leads_map _ (leads_map _ (leads_runById settings id trigger context triggeredBy))
  | act site action =>
      exact plain (only_map _ ((Runner.ofAction_execute site action).mono fun _ =>
        Request.isBooking_of_isOfAction))
  | submit url method actionId workflowId executionId headers content =>
      exact plain (only_map _ ((Prog.Passes.only (Runner.isPlain_submit _ headers content)).mono
        fun _ => Request.isBooking_of_isOfAction))

/-! ### Who pursues which run -/

section

variable {α : Type} {m : Prog α} {id : RecordId}

/-- Work with a run in progress pursues it. -/
theorem pursues (leads : m.Leads (coursing steady) (fun _ => isEnd) p) (owed : p.owed? = some e) :
    m.Pursues e.id := by
  induction m generalizing p e with
  | done a => cases leads.symm.trans owed
  | fail f => cases leads.symm.trans owed
  | call r rest ih =>
      have onward := leads.2
      cases leads.1 with
      | plain plain rests =>
          obtain ⟨a⟩ := r.nonempty_answer
          have notOpening := Request.isOpening_of_plain plain
          have after := onward (.ok a) (expects_of_not_opening notOpening a)
          rw [next_of_plain plain] at after
          exact .inr ⟨notOpening, a, ih _ after owed⟩
      | opens running => cases owed
      | starts | finishes | tells _ => exact .inl (congrArg Execution.id (Option.some.inj owed))
      | shows follows _ | closes follows _ =>
          exact .inl (follows.id.trans (congrArg Execution.id (Option.some.inj owed)))
      | counts completedAt =>
          exact .inr ⟨rfl, (), ih (.ok ()) (onward (.ok ()) trivial) owed⟩

/-- Work that has opened an entry is about to tell the bus of it. -/
theorem starts_of_opened (leads : m.Leads (coursing steady) (fun _ => isEnd) (opened e)) :
    ∃ rest, m = .call (.emit .started e) rest := by
  cases m with
  | done a => cases leads
  | fail f => cases leads
  | call r rest =>
      cases leads.1 with
      | plain plain rests => cases rests
      | starts => exact ⟨rest, rfl⟩

/-- A request that concerns a run is made by work that has it in progress. -/
theorem owed_of_concerns (allowed : (coursing steady).may p r) (concerns : r.concerns id) :
    ∃ e, p.owed? = some e ∧ e.id = id := by
  cases allowed with
  | plain plain rests => exact absurd concerns (Request.not_concerns_of_plain plain)
  | opens running => cases concerns
  | starts | finishes | tells _ => exact ⟨_, rfl, concerns⟩
  | shows follows _ | closes follows _ => exact ⟨_, rfl, follows.id.symm.trans concerns⟩
  | counts completedAt => cases concerns

/-- What work has in progress after an answer it has had before, unless it has opened it. -/
theorem owed_of_next {x : Except Failure r.Answer} (allowed : (coursing steady).may p r)
    (notOpening : r.isOpening = false) (owed : ((coursing steady).next p r x).owed? = some e) :
    ∃ e₀, p.owed? = some e₀ ∧ e₀.id = e.id := by
  cases allowed with
  | plain plain rests =>
      rw [next_of_plain plain] at owed
      exact ⟨e, owed, rfl⟩
  | opens running => cases notOpening
  | starts => cases x <;> exact ⟨e, owed, rfl⟩
  | shows follows running =>
      rw [next_shown running] at owed
      exact ⟨_, rfl, Option.some.inj owed ▸ follows.id.symm⟩
  | closes follows shut =>
      rw [next_closed shut] at owed
      exact ⟨_, rfl, Option.some.inj owed ▸ follows.id.symm⟩
  | finishes | counts _ =>
      cases x with
      | ok a => exact ⟨e, owed, rfl⟩
      | error f => cases owed
  | tells sure =>
      cases x with
      | ok a => cases owed
      | error f => exact ⟨e, owed, rfl⟩

/-- A run is lost by work that has it in progress, when the store refuses the end or the count. -/
theorem lost_of_next {x : Except Failure r.Answer} (allowed : (coursing steady).may p r)
    (lost : (coursing steady).next p r x = .lost e) :
    p = .lost e ∨ p.owed? = some e ∧ r.isSettling = true ∧ ∃ f, x = .error f := by
  cases allowed with
  | plain plain rests => exact .inl ((next_of_plain plain x).symm.trans lost)
  | shows follows running =>
      rw [next_shown running] at lost
      cases lost
  | closes follows shut =>
      rw [next_closed shut] at lost
      cases lost
  | opens running | starts | tells sure => cases x <;> cases lost
  | finishes | counts _ =>
      cases x with
      | ok a => cases lost
      | error f => exact .inr ⟨congrArg some (Course.lost.inj lost), rfl, f, rfl⟩

/-- Work that pursues a run has it in progress. -/
theorem of_pursues (leads : m.Leads (coursing steady) (fun _ => isEnd) p) (pursues : m.Pursues id) :
    ∃ e, p.owed? = some e ∧ e.id = id := by
  induction m generalizing p with
  | done a => cases pursues
  | fail f => cases pursues
  | call r rest ih =>
      rcases pursues with concerns | ⟨notOpening, a, pursues⟩
      · exact owed_of_concerns leads.1 concerns
      · have onward := leads.2 (.ok a) (expects_of_not_opening notOpening a)
        obtain ⟨e', owed, same⟩ := ih _ onward pursues
        obtain ⟨e, had, id⟩ := owed_of_next leads.1 notOpening owed
        exact ⟨e, had, id.trans same⟩

end

end Course

/-! ## Systems -/

/-- Whether a program that is let run is refused no request of a kind. -/
def Prog.isServed {α : Type} (vital : Request → Bool) : Prog α → World → Bool
  | .call r rest, w =>
    (!vital r || (w.answer r).1.isOk) && (rest (w.answer r).1).isServed vital (w.answer r).2
  | _, _ => true

/-- Where one place of a list has changed, it is the place of any change. -/
theorem eq_of_changed {α : Type} {xs xs' ys ys' : List α} {x x' y y' : α}
    (before : xs ++ x :: ys = xs' ++ x' :: ys') (after : xs ++ y :: ys = xs' ++ y' :: ys')
    (changed : y' ≠ x') : x = x' := by
  induction xs generalizing xs' with
  | nil =>
      cases xs' with
      | nil => exact (List.cons.inj before).1
      | cons a xs' =>
          have left := List.append_cancel_left ((List.cons.inj after).2.symm.trans
            (List.cons.inj before).2)
          exact absurd (List.cons.inj left).1 changed
  | cons a xs ih =>
      cases xs' with
      | nil => exact absurd ((List.cons.inj after).1.symm.trans (List.cons.inj before).1) changed
      | cons a' xs' => exact ih (List.cons.inj before).2 (List.cons.inj after).2

namespace System

/-- What is left of all that is under way. -/
def programs (s : System Unit) : List (Prog Unit) := s.calls ++ s.tasks.map Task.left

/-- The run with an identifier is in progress. -/
def Pursues (s : System Unit) (id : RecordId) : Prop := ∃ m ∈ s.programs, m.Pursues id

/-- Who keeps to a code is in one of the phases, and in each phase is somebody. -/
theorem Attended.programs {φ : Type} {c : Conduct φ} {ends : φ → Prop}
    {suits : φ → Background → Prop} {Tied : World → List φ → Prop} {s : System Unit}
    (h : Attended c ends suits Tied s) : ∃ ps, Tied s.world ps ∧
      (∀ m ∈ s.programs, ∃ p ∈ ps, m.Leads c (fun _ => ends) p) ∧
      ∀ p ∈ ps, ∃ m ∈ s.programs, m.Leads c (fun _ => ends) p := by
  obtain ⟨calls, tasks, hcalls, htasks, keepCalls, keepTasks, tied⟩ := h
  refine ⟨_, tied, ?_, ?_⟩
  · intro m hm
    rw [System.programs, hcalls, htasks, List.map_map] at hm
    rcases List.mem_append.mp hm with hm | hm
    · obtain ⟨x, hx, rfl⟩ := List.mem_map.mp hm
      exact ⟨x.1, List.mem_append_left _ (List.mem_map_of_mem hx), keepCalls x hx⟩
    · obtain ⟨x, hx, rfl⟩ := List.mem_map.mp hm
      exact ⟨x.1, List.mem_append_right _ (List.mem_map_of_mem hx), (keepTasks x hx).1⟩
  · intro p hp
    rw [System.programs, hcalls, htasks, List.map_map]
    rcases List.mem_append.mp hp with hp | hp
    · obtain ⟨x, hx, rfl⟩ := List.mem_map.mp hp
      exact ⟨x.2, List.mem_append_left _ (List.mem_map_of_mem hx), keepCalls x hx⟩
    · obtain ⟨x, hx, rfl⟩ := List.mem_map.mp hp
      exact ⟨x.2.left, List.mem_append_right _ (List.mem_map.mpr ⟨x, hx, rfl⟩), (keepTasks x hx).1⟩

/-- A step in which a program of some kind is refused a request of some kind. -/
inductive Refuses (vital : Request → Bool) (whose : Prog Unit → Prop) :
    System Unit → System Unit → Prop where
  | call {w : World} {before after : List (Prog Unit)} {tasks : List Task} {r : Request}
      {rest : Except Failure r.Answer → Prog Unit} {f : Failure} (isVital : vital r = true)
      (is : whose (.call r rest)) (refused : (w.answer r).1 = .error f) :
      Refuses vital whose ⟨w, before ++ .call r rest :: after, tasks⟩
        ⟨(w.answer r).2, before ++ rest (w.answer r).1 :: after, tasks⟩
  | task {w : World} {calls : List (Prog Unit)} {before after : List Task} {work : Background}
      {r : Request} {rest : Except Failure r.Answer → Prog Unit} {f : Failure}
      (isVital : vital r = true) (is : whose (.call r rest))
      (refused : (w.answer r).1 = .error f) :
      Refuses vital whose ⟨w, calls, before ++ ⟨work, .call r rest⟩ :: after⟩
        ⟨(w.answer r).2, calls, before ++ ⟨work, rest (w.answer r).1⟩ :: after⟩

/-- The states that a system can come to by steps of which none is of a certain kind. -/
inductive ReachesWithout (shunned : System Unit → System Unit → Prop) (settings : Settings)
    (outside : World → World → Prop) (start : System Unit) : System Unit → Prop where
  | refl : ReachesWithout shunned settings outside start start
  | step {s t : System Unit} (before : ReachesWithout shunned settings outside start s)
      (move : Step settings outside s t) (without : ¬ shunned s t) :
      ReachesWithout shunned settings outside start t

theorem ReachesWithout.reachable {shunned : System Unit → System Unit → Prop} {settings : Settings}
    {outside : World → World → Prop} {start s : System Unit}
    (h : ReachesWithout shunned settings outside start s) : Reachable settings outside start s := by
  induction h with
  | refl => exact .refl
  | step _ move _ ih => exact ih.step move

/-- A step of a call that is served refuses nothing. -/
theorem not_refuses {vital : Request → Bool} {whose : Prog Unit → Prop} {w : World}
    {before after : List (Prog Unit)} {tasks : List Task} {r : Request}
    {rest : Except Failure r.Answer → Prog Unit}
    (served : vital r = true → (w.answer r).1.isOk = true) :
    ¬ Refuses vital whose ⟨w, before ++ .call r rest :: after, tasks⟩
      ⟨(w.answer r).2, before ++ rest (w.answer r).1 :: after, tasks⟩ := by
  generalize hs : (⟨w, before ++ .call r rest :: after, tasks⟩ : System Unit) = s
  generalize ht : (⟨(w.answer r).2, before ++ rest (w.answer r).1 :: after, tasks⟩ :
    System Unit) = t
  intro refuses
  cases refuses with
  | call isVital _ refused =>
      obtain ⟨rfl, calls, _⟩ := System.mk.inj hs
      obtain ⟨_, calls', _⟩ := System.mk.inj ht
      obtain ⟨rfl, _⟩ := Prog.call.inj (eq_of_changed calls calls' (Prog.rest_ne _ rfl _))
      rw [refused] at served
      cases served isVital
  | task =>
      obtain ⟨_, _, rfl⟩ := System.mk.inj hs
      obtain ⟨_, _, tasks'⟩ := System.mk.inj ht
      have same := (List.cons.inj (List.append_cancel_left tasks')).1
      exact Prog.rest_ne _ rfl _ (Task.mk.inj same).2.symm

/-- A call that is served may be let run to its end. -/
theorem ReachesWithout.runCall {settings : Settings} {outside : World → World → Prop}
    {start : System Unit} {vital : Request → Bool} {whose : Prog Unit → Prop} {w : World}
    {tasks : List Task} (before after : List (Prog Unit)) {m : Prog Unit}
    (h : ReachesWithout (Refuses vital whose) settings outside start
      ⟨w, before ++ m :: after, tasks⟩)
    (served : m.isServed vital w = true) (free : m.isFree w = true) :
    ReachesWithout (Refuses vital whose) settings outside start
      ⟨(m.run w).2, before ++ Prog.ofExcept (m.run w).1 :: after, tasks⟩ := by
  induction m generalizing w with
  | done a => exact h
  | fail f => exact h
  | call r rest ih =>
      obtain ⟨ready, free⟩ := Bool.and_eq_true_iff.mp free
      obtain ⟨here, served⟩ := Bool.and_eq_true_iff.mp served
      have move := h.step (.call w before after tasks r rest ready)
        (not_refuses fun isVital => by simpa [isVital] using here)
      exact ih _ move served free

/-- What is attended stays so where no request of a kind is refused, if no other answer breaks the
tie. -/
theorem Attended.of_reachesWithout {φ : Type} {c : Conduct φ} {ends : φ → Prop}
    {settings : Settings} {outside : World → World → Prop} {Tied : World → List φ → Prop}
    {vital : Request → Bool} {whose : Prog Unit → Prop}
    (answered : ∀ w front p back r rest, Tied w (front ++ p :: back) →
      (Prog.call r rest).Leads c (fun _ => ends) p →
      (vital r = true → whose (.call r rest) → ∀ f, (w.answer r).1 ≠ .error f) →
      c.expects r (w.answer r).1 ∧
        Tied (w.answer r).2 (front ++ c.next p r (w.answer r).1 :: back))
    (begun : ∀ w ps before work after, Tied w ps → w.queue = before ++ work :: after →
      ∃ p, (work.program settings).Leads c (fun _ => ends) p ∧
        Tied { w with queue := before ++ after } (ps ++ [p]))
    (changed : ∀ w w' ps, outside w w' → Tied w ps → Tied w' ps) {start s : System Unit}
    (reaches : ReachesWithout (Refuses vital whose) settings outside start s)
    (atStart : Attended c ends (fun _ _ => True) Tied start) :
    Attended c ends (fun _ _ => True) Tied s := by
  induction reaches with
  | refl => exact atStart
  | step _ move without h =>
      cases move with
      | call w before after tasks r rest ready =>
          obtain ⟨front, p, back, _, tied, leads, onward⟩ := h.leadsCall
          obtain ⟨expected, here⟩ := answered w front p back r rest tied leads
            fun isVital is f refused => without (.call isVital is refused)
          exact onward Tied expected here
      | task w calls before after work r rest ready =>
          obtain ⟨front, p, back, tied, leads, _, onward⟩ := h.leadsTask
          obtain ⟨expected, here⟩ := answered w front p back r rest tied leads
            fun isVital is f refused => without (.task isVital is refused)
          exact onward Tied expected trivial here
      | «begin» w calls tasks before after work queued =>
          obtain ⟨ps, tied, onward⟩ := h.atBegin { w with queue := before ++ after } work
          obtain ⟨p, keeps, here⟩ := begun w ps before work after tied queued
          exact onward Tied p trivial keeps here
      | change w w' calls tasks allowed =>
          obtain ⟨ps, tied, onward⟩ := h.atChange w'
          exact onward Tied (changed w w' ps allowed tied)

end System

end RecordFlow
