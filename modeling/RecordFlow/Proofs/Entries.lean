/-
# Entries — what the memory store shows of runs at any time

A run writes one entry: it opens it as running, shows it after every action,
and closes it as completed or as failed.  Between two of its requests its
entry stands in the store as it was last shown.  This order of steps is a code
of conduct of its own, `keeping`, with a phase for each state of the entry; it
is kept by runs in the background and by runs that are asked for by hand,
`leads_call` and `leads_work`.

What follows for the ledger as a whole is told in `Audit`.
-/
import RecordFlow.Proofs.Reports

namespace RecordFlow

namespace Execution

/-- An entry as it may be seen at any time. -/
structure IsSound (e : Execution) : Prop where
  known : ∃ status, e.status = .known status
  running : e.status = .known .running ↔ e.completedAt = none
  counted : e.actionsExecuted = e.outcomes.countP (·.status = .success)
  /-- Only the last outcome may be of an action that failed. -/
  last : ∀ o ∈ e.outcomes.dropLast, o.status ≠ .failed
  completed : e.status = .known .completed →
    (∀ o ∈ e.outcomes, o.status ≠ .failed) ∧ e.errorMessage = none
  failed : e.status = .known .failed → ∃ said, e.errorMessage = some said ∧ said ≠ ""

/-- The entry of a run that is under way. -/
structure IsGoing (e : Execution) : Prop where
  running : e.status = .known .running
  completedAt : e.completedAt = none
  counted : e.actionsExecuted = e.outcomes.countP (·.status = .success)
  fine : ∀ o ∈ e.outcomes, o.status ≠ .failed
  errorMessage : e.errorMessage = none

/-- The entry of a run that has ended. -/
structure IsClosed (e : Execution) : Prop where
  sound : e.IsSound
  finished : e.isFinished = true

namespace IsGoing

variable {e : Execution}

theorem sound (h : e.IsGoing) : e.IsSound where
  known := ⟨_, h.running⟩
  running := iff_of_true h.running h.completedAt
  counted := h.counted
  last o ho := h.fine o ((List.dropLast_sublist _).mem ho)
  completed done := by rw [h.running] at done; cases done
  failed done := by rw [h.running] at done; cases done

theorem not_finished (h : e.IsGoing) : e.isFinished = false := by
  simp [isFinished, h.running]

theorem counted_append (h : e.IsGoing) (o : ActionOutcome) :
    (e.append o).actionsExecuted = (e.append o).outcomes.countP (·.status = .success) := by
  simp only [append, List.countP_append, List.countP_singleton, h.counted]
  by_cases success : o.status = .success <;> simp [success]

theorem append (h : e.IsGoing) {o : ActionOutcome} (fine : o.status ≠ .failed) :
    (e.append o).IsGoing where
  running := h.running
  completedAt := h.completedAt
  counted := h.counted_append o
  fine x hx := by
    rcases List.mem_append.mp hx with hx | hx
    · exact h.fine x hx
    · exact List.mem_singleton.mp hx ▸ fine
  errorMessage := h.errorMessage

theorem closeCompleted (h : e.IsGoing) (now : Instant) : (e.closeCompleted now).IsClosed where
  sound := {
    known := ⟨_, rfl⟩
    running := iff_of_false nofun nofun
    counted := h.counted
    last := fun o ho => h.fine o ((List.dropLast_sublist _).mem ho)
    completed := fun _ => ⟨h.fine, h.errorMessage⟩
    failed := nofun }
  finished := rfl

theorem closeFailed_of {said : String} (counted : e.actionsExecuted
      = e.outcomes.countP (·.status = .success))
    (last : ∀ o ∈ e.outcomes.dropLast, o.status ≠ .failed) (words : said ≠ "") (now : Instant) :
    (e.closeFailed (some said) now).IsClosed where
  sound := {
    known := ⟨_, rfl⟩
    running := iff_of_false nofun nofun
    counted
    last
    completed := nofun
    failed := fun _ => ⟨said, rfl, words⟩ }
  finished := rfl

/-- A run whose loop stopped. -/
theorem closeFailed (h : e.IsGoing) {said : String} (words : said ≠ "") (now : Instant) :
    (e.closeFailed (some said) now).IsClosed :=
  closeFailed_of h.counted (fun o ho => h.fine o ((List.dropLast_sublist _).mem ho)) words now

/-- A run one of whose actions has failed. -/
theorem closeFailed_append (h : e.IsGoing) (o : ActionOutcome) {said : String} (words : said ≠ "")
    (now : Instant) : ((e.append o).closeFailed (some said) now).IsClosed := by
  refine closeFailed_of (h.counted_append o) ?_ words now
  intro x hx
  simp only [Execution.append, List.dropLast_concat] at hx
  exact h.fine x hx

end IsGoing

theorem isGoing_opening (workflow : Workflow) (trigger : Open TriggerKind) (context : Context)
    (triggeredBy : Option String) (now : Instant) :
    (opening workflow trigger context triggeredBy now).IsGoing :=
  ⟨rfl, rfl, rfl, nofun, rfl⟩

end Execution

/-! ## The code -/

/-- How far a piece of work is with its entry. -/
inductive Pen where
  /-- It writes none. -/
  | aside
  /-- It has none yet, and may open one. -/
  | empty
  /-- Its entry was shown last as it stands here, under way. -/
  | going (e : Execution)
  /-- Its entry is closed. -/
  | closed (e : Execution)

namespace Pen

/-- The entry that a piece of work has. -/
def entry? : Pen → Option Execution
  | going e | closed e => some e
  | aside | empty => none

/-- The phases in which work may end: no entry is under way. -/
def isEnd : Pen → Prop
  | going _ => False
  | _ => True

/-- A delivery writes no entry. -/
def suits : Pen → Background → Prop
  | aside, _ => True
  | _, .run _ => True
  | _, .delivery _ => False

end Pen

/-- Whether a request writes an execution. -/
def Request.writesEntry : Request → Bool
  | openExecution _ | createExecution _ | publishExecution _ | finishExecution _ => true
  | _ => false

theorem Request.writesEntry_of_isAside {r : Request} (h : r.isAside = true) :
    r.writesEntry = false := by
  cases r <;> first | rfl | cases h

theorem Request.writesEntry_of_isPrompt {r : Request} (h : r.isPrompt = true) :
    r.writesEntry = false :=
  writesEntry_of_isAside (isAside_of_isPrompt h)

/-- A request that writes no entry leaves the executions as they are, and issues no identifier. -/
theorem World.table_answer (w : World) {r : Request} (plain : r.writesEntry = false) :
    (w.answer r).2.store.table = w.store.table ∧ (w.answer r).2.issued = w.issued := by
  by_cases aside : r.isAside = true
  · have kept := w.aside_answer aside
    exact ⟨kept.table, kept.issued⟩
  · cases r with
    | claim k =>
        rw [answer_claim]
        split <;> exact ⟨rfl, rfl⟩
    | release k => exact ⟨rfl, rfl⟩
    | start work => exact ⟨rfl, rfl⟩
    | openExecution | createExecution | publishExecution | finishExecution => cases plain
    | _ => exact absurd rfl aside

/-- What a dispatch asks for: which workflows there are, whether they may run, that they start, and
what is to be logged of it. -/
def Request.isMatching : Request → Bool
  | listActive .. | hasCompleted _ | claim _ | release _ | start (.run _) | log _ => true
  | _ => false

theorem Request.writesEntry_of_isMatching {r : Request} (h : r.isMatching = true) :
    r.writesEntry = false := by
  cases r <;> first | rfl | cases h

namespace Keeping

/-- What may be asked in a phase. -/
def may : Pen → Request → Prop
  | .aside, r => r.writesEntry = false
  | .empty, r => r.writesEntry = false ∨ ∃ e, r = .openExecution e ∧ e.IsGoing
  | .going e, r => r.writesEntry = false ∨
      ∃ e', r = .publishExecution e' ∧ e'.id = e.id ∧ (e'.IsGoing ∨ e'.IsClosed)
  | .closed e, r => r.writesEntry = false ∨ r = .finishExecution e

/-- The requests that nothing makes fail: those of the clock and of the log, that an entry is
shown, and, with a bus that takes it, that a run is told of. -/
def sure : Request → Bool
  | .now | .log _ | .publishExecution _ | .emit .started _ => true
  | _ => false

/-- The answers to reckon with: failures have words, what is sure does not fail, and an entry is
opened under an identifier that was issued. -/
def expects : (r : Request) → Except Failure r.Answer → Prop
  | r, .error f => f.report ≠ "" ∧ sure r = false
  | .openExecution e, .ok e' => ∃ n, e' = { e with id := .issued n }
  | _, .ok _ => True

/-- The phase after an answer. -/
def next : Pen → (r : Request) → Except Failure r.Answer → Pen
  | .empty, .openExecution _, .ok e => .going e
  | .going _, .publishExecution e, _ => if e.isFinished then .closed e else .going e
  | p, _, _ => p

end Keeping

/-- The code by which entries are kept. -/
def keeping : Conduct Pen where
  may := Keeping.may
  expects := Keeping.expects
  next := Keeping.next

namespace Keeping

open Prog (ask leads_bind leads_ask leads_ask_bind leads_stay_bind leads_attempt leads_map)

theorem next_of_plain {p : Pen} {r : Request} (plain : r.writesEntry = false)
    (x : Except Failure r.Answer) : next p r x = p := by
  cases p <;> cases r <;> first | rfl | cases plain

theorem may_of_plain {p : Pen} {r : Request} (plain : r.writesEntry = false) : may p r := by
  cases p <;> first | exact plain | exact .inl plain

theorem idle_of_prompt {p : Pen} (r : Request) (prompt : r.isPrompt = true) :
    keeping.may p r ∧ ∀ x, keeping.next p r x = p :=
  have plain := Request.writesEntry_of_isPrompt prompt
  ⟨may_of_plain plain, next_of_plain plain⟩

section

variable {e e' : Execution} (x : Except Failure (Request.publishExecution e').Answer)

theorem next_going (h : e'.IsGoing) :
    keeping.next (.going e) (.publishExecution e') x = .going e' := by
  simp only [keeping, next, h.not_finished, Bool.false_eq_true, if_false]

theorem next_closed (h : e'.IsClosed) :
    keeping.next (.going e) (.publishExecution e') x = .closed e' := by
  simp only [keeping, next, h.finished, if_true]

end

section

variable {α β : Type} {p : Pen}

/-- What writes no entry may fail with words, and else the rest goes on in the same phase. -/
theorem leads_plain_bind {r : Request} {rest : r.Answer → Prog β}
    {wanted : Except Failure β → Pen → Prop} (plain : r.writesEntry = false)
    (fails : ∀ e, sure r = false → wanted (.error e) p)
    (goesOn : ∀ a, (rest a).Leads keeping wanted p) :
    (ask r >>= rest).Leads keeping wanted p :=
  leads_stay_bind (may_of_plain plain) (next_of_plain plain)
    (fun e expected => fails e expected.2) fun a _ => goesOn a

/-- A program that writes no entry keeps to the code in any phase. -/
theorem leads_only {m : Prog α} {wanted : Except Failure α → Pen → Prop}
    (h : m.Only fun r => r.writesEntry = false) (ends : ∀ x, wanted x p) :
    m.Leads keeping wanted p :=
  h.leads (fun _ plain => ⟨may_of_plain plain, next_of_plain plain⟩) ends

end

/-! ## Running -/

/-- Where the loop over the actions leaves a run: under way, as its entry was last shown. -/
inductive LoopEnds : Except Failure Run.Progress → Pen → Prop where
  | through {e : Execution} (h : e.IsGoing) : LoopEnds (.ok (.through e)) (.going e)
  | stopped {e : Execution} (h : e.IsGoing) (o : ActionOutcome) {said : String}
      (words : said ≠ "") : LoopEnds (.ok (.stopped (e.append o) (some said))) (.going e)
  | raised {e : Execution} (h : e.IsGoing) {f : Failure} (words : f.report ≠ "") :
      LoopEnds (.ok (.raised e f)) (.going e)

theorem leads_runActions (site : Runner.Site) (actions : List Action) {e : Execution}
    (h : e.IsGoing) : (Run.runActions site actions e).Leads keeping LoopEnds (.going e) := by
  induction actions generalizing e with
  | nil => exact LoopEnds.through h
  | cons a actions ih =>
      have here := Runner.leads_execute (c := keeping) (p := .going e) site a idle_of_prompt
        fun _ _ expected => expected.1
      refine leads_bind (leads_attempt (here.mono ?_))
      rintro x q ⟨rfl, tells⟩
      cases x with
      | error f => exact LoopEnds.raised h tells
      | ok o =>
          show Prog.Leads _ _ _ (if o.status = .failed then _ else _)
          split
          · rename_i failed
            obtain ⟨said, text, words⟩ := tells failed
            have why : o.errorText? = some said := by rw [ActionOutcome.errorText?, text]
            rw [why]
            exact LoopEnds.stopped h o words
          · rename_i fine
            have still := h.append fine
            refine leads_ask_bind (.inr ⟨_, rfl, rfl, .inl still⟩) (fun _ sure => nomatch sure.2) ?_
            intro _ _
            rw [next_going _ still]
            exact ih still

/-- Work that shows its entry closed may end from there on, whatever follows. -/
theorem leads_close {α : Type} {e e' : Execution} {rest : Unit → Prog α} (id : e'.id = e.id)
    (closed : e'.IsClosed)
    (goesOn : (rest ()).Leads keeping (fun _ p => p.isEnd) (.closed e')) :
    (ask (.publishExecution e') >>= rest).Leads keeping (fun _ p => p.isEnd) (.going e) := by
  refine leads_ask_bind (.inr ⟨e', rfl, id, .inr closed⟩) (fun _ sure => nomatch sure.2) ?_
  intro _ _
  rw [next_closed _ closed]
  exact goesOn

theorem leads_finishEntry {α : Type} {e : Execution} {rest : Execution → Prog α}
    (goesOn : ∀ x, (rest x).Leads keeping (fun _ p => p.isEnd) (.closed e)) :
    (ask (.finishExecution e) >>= rest).Leads keeping (fun _ p => p.isEnd) (.closed e) :=
  leads_ask_bind (.inr rfl) (fun _ _ => trivial) fun x _ => goesOn x

theorem leads_finish (workflowId : Uid) {e e' : Execution} (id : e'.id = e.id)
    (closed : e'.IsClosed) :
    (Run.finish workflowId e').Leads keeping (fun _ p => p.isEnd) (.going e) := by
  refine leads_close id closed (leads_finishEntry fun _ => ?_)
  refine leads_plain_bind rfl (fun _ _ => trivial) fun _ => ?_
  refine leads_plain_bind rfl (fun _ _ => trivial) fun _ => ?_
  exact leads_plain_bind rfl (fun _ _ => trivial) fun _ => trivial

theorem leads_abort (workflowId : Uid) {e : Execution} (h : e.IsGoing) {f : Failure}
    (words : f.report ≠ "") :
    (Run.abort workflowId e f).Leads keeping (fun _ p => p.isEnd) (.going e) := by
  refine leads_plain_bind rfl nofun fun _ => leads_plain_bind rfl nofun fun now => ?_
  refine leads_close rfl (h.closeFailed words now) (leads_finishEntry fun _ => ?_)
  exact leads_plain_bind rfl (fun _ _ => trivial) fun _ => trivial

/-- A run keeps to the code, and ends with its entry closed if it has opened one. -/
theorem leads_run (settings : Settings) (workflow : Workflow) (trigger : Open TriggerKind)
    (context : Context) (triggeredBy : Option String) :
    (Run.run settings workflow trigger context triggeredBy).Leads keeping (fun _ p => p.isEnd)
      .empty := by
  refine leads_plain_bind rfl (fun _ _ => trivial) fun now => ?_
  have opening := Execution.isGoing_opening workflow trigger context triggeredBy now
  refine leads_ask_bind (.inr ⟨_, rfl, opening⟩) (fun _ _ => trivial) ?_
  rintro e ⟨n, rfl⟩
  have h : Execution.IsGoing { Execution.opening workflow trigger context triggeredBy now with
      id := .issued n } := { opening with }
  refine leads_plain_bind rfl nofun fun _ => ?_
  refine leads_bind ((leads_runActions _ _ h).mono ?_)
  intro x p ended
  cases ended with
  | through h =>
      exact leads_plain_bind rfl nofun fun now =>
        leads_finish workflow.id rfl (h.closeCompleted now)
  | stopped h o words =>
      exact leads_plain_bind rfl nofun fun now =>
        leads_finish workflow.id rfl (h.closeFailed_append o words now)
  | raised h words => exact leads_abort workflow.id h words

theorem leads_runById (settings : Settings) (id : Uid) (trigger : Open TriggerKind)
    (context : Context) (triggeredBy : Option String) :
    (Run.runById settings id trigger context triggeredBy).Leads keeping (fun _ p => p.isEnd)
      .empty :=
  Run.leads_runById (.inl rfl) (fun _ => rfl) trivial fun workflow =>
    leads_run settings workflow trigger context triggeredBy

theorem leads_background (settings : Settings) (q : QueuedRun) :
    (Dispatch.background settings q).Leads keeping (fun _ p => p.isEnd) .empty :=
  Dispatch.leads_background (leads_run settings q.workflow.record q.trigger q.context none)
    (fun _ _ _ => ⟨may_of_plain rfl, next_of_plain rfl⟩) (fun _ _ _ ended _ => ended)
    fun _ ended => leads_only (Prog.only_ask rfl) fun _ => ended

/-- The phase in which work in the background begins. -/
def begins : Background → Pen
  | .run _ => .empty
  | .delivery _ => .aside

/-- All work in the background keeps to the code. -/
theorem leads_work (settings : Settings) (work : Background) :
    (work.program settings).Leads keeping (fun _ p => p.isEnd) (begins work) := by
  cases work with
  | run q => exact leads_background settings q
  | delivery job =>
      exact leads_only ((Deliver.isAside_background settings job).mono fun _ =>
        Request.writesEntry_of_isAside) fun _ => trivial

theorem suits_begins (work : Background) : (begins work).suits work := by
  cases work <;> trivial

theorem suits_next {p : Pen} {r : Request} (x : Except Failure r.Answer) {work : Background}
    (allowed : may p r) (suits : p.suits work) : (next p r x).suits work := by
  cases p with
  | aside => rwa [next_of_plain allowed]
  | _ =>
      cases work with
      | run q =>
          cases hnext : next _ r x <;> trivial
      | delivery job => cases suits

/-! ## Dispatching -/

open Prog (only_bind only_ask only_pure only_ofExcept only_attempt)

theorem matches_claim (key : RunKey) :
    (Dispatch.claim key).Only fun r => r.isMatching = true := by
  refine only_bind (only_ask rfl) fun claimed => ?_
  cases claimed with
  | false => exact only_pure _
  | true =>
      refine only_bind (only_attempt (only_ask rfl)) fun looked => ?_
      cases looked with
      | error f => exact only_bind (only_ask rfl) fun _ => trivial
      | ok completed =>
          cases completed with
          | true => exact only_bind (only_ask rfl) fun _ => only_pure _
          | false => exact only_pure _

theorem matches_consider (kind : Open TriggerKind) (context : Context) (w : Filed Workflow) :
    (Dispatch.consider kind context w).Only fun r => r.isMatching = true := by
  refine only_bind (only_ofExcept _) fun eligible => ?_
  cases eligible with
  | false => exact only_pure _
  | true =>
      have mayRun : (Dispatch.mayRun w.record (Dispatch.keyFor w.record context)).Only
          fun r => r.isMatching = true := by
        unfold Dispatch.mayRun
        split
        · exact matches_claim _
        · exact only_pure _
      refine only_bind mayRun fun runs => ?_
      cases runs <;> exact only_bind (only_ask rfl) fun _ => only_pure _

theorem matches_considerAll (kind : Open TriggerKind) (context : Context)
    (ws : List (Filed Workflow)) :
    (Dispatch.considerAll kind context ws).Only fun r => r.isMatching = true := by
  induction ws with
  | nil => exact only_pure _
  | cons w ws ih =>
      refine only_bind (only_attempt (matches_consider kind context w)) fun considered => ?_
      cases considered with
      | error f => exact only_bind (only_ask rfl) fun _ => only_pure _
      | ok started => exact only_bind ih fun _ => only_pure _

theorem matches_dispatch (kind : Open TriggerKind) (context : Context) :
    (Dispatch.dispatch kind context).Only fun r => r.isMatching = true := by
  refine only_bind (only_attempt (only_ask rfl)) fun listed => ?_
  cases listed with
  | error f => exact only_bind (only_ask rfl) fun _ => only_pure _
  | ok ws => exact matches_considerAll kind context ws

/-- A dispatch writes no entry. -/
theorem only_dispatch (kind : Open TriggerKind) (context : Context) :
    (Dispatch.dispatch kind context).Only fun r => r.writesEntry = false :=
  (matches_dispatch kind context).mono fun _ => Request.writesEntry_of_isMatching

end Keeping

/-! ## Calls -/

/-- What the engine is called for: to dispatch a change, or to run a workflow by hand. -/
inductive Call where
  | dispatch (kind : Open TriggerKind) (context : Context)
  | run (id : Uid) (trigger : Open TriggerKind) (context : Context) (triggeredBy : Option String)

namespace Call

/-- The program of a call: it gives whose runs were started, or the entry of the run. -/
def program (settings : Settings) : Call → Prog (List Uid ⊕ RecordId)
  | dispatch kind context => .inl <$> Dispatch.dispatch kind context
  | run id trigger context triggeredBy =>
    .inr <$> Run.runById settings id trigger context triggeredBy

end Call

/-- A call keeps to the code. -/
theorem Keeping.leads_call (settings : Settings) (call : Call) :
    (call.program settings).Leads keeping (fun _ p => p.isEnd) .empty := by
  cases call with
  | dispatch kind context =>
      exact leads_only (Prog.only_map _ (only_dispatch kind context)) fun _ => trivial
  | run id trigger context triggeredBy =>
      exact Prog.leads_map _ (leads_runById settings id trigger context triggeredBy)

end RecordFlow
