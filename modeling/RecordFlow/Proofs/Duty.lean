/-
# Duty — the phases of the engine's own work

A dispatch claims a key before it looks at the ledger and looks before it
starts a run; a run writes one entry of its own and gives its key back last.
This order of steps is the engine's code of conduct, with one phase for each
point of it.  That the engine keeps to the code, whatever it is answered, is
told once for dispatching, `leads_dispatch`, and once for the background,
`leads_program`; what follows for the keys and for the ledger is told
elsewhere.
-/
import RecordFlow.Proofs.Aside

namespace RecordFlow

/-- What an execution is of: the key of its run, and the event that the run was started for. -/
structure Origin where
  key : RunKey
  trigger : Open TriggerKind

/-- What an execution is of. -/
def Execution.origin (e : Execution) : Origin := ⟨e.key, e.trigger⟩

/-- What the execution of a run is to be of. -/
def QueuedRun.origin (q : QueuedRun) : Origin := ⟨q.key, q.trigger⟩

/-- Where a piece of the engine's work is. -/
inductive Phase where
  /-- Nothing is held. -/
  | idle
  /-- A key is claimed, and the ledger has not been looked at. -/
  | claiming (key : RunKey)
  /-- A key is claimed, and the ledger has shown no completed run. -/
  | cleared (key : RunKey)
  /-- A run has begun and has no entry. -/
  | due (o : Origin)
  /-- A run has an entry, as it was last shown to others. -/
  | running (o : Origin) (e : Execution)
  /-- A run has given its key back. -/
  | released
  /-- Work of another kind, which neither holds a key nor writes an entry. -/
  | aside

namespace Phase

/-- Whether a key is held in a phase. -/
def holds (k : RunKey) : Phase → Bool
  | claiming key | cleared key => key = k
  | due o | running o _ => o.key = k
  | idle | released | aside => false

/-- Whether work may end in a phase. -/
def isEnd : Phase → Prop
  | idle | released | aside => True
  | _ => False

/-- The phases that suit work in the background: a run is in the phases of a run of its origin,
and a delivery is aside. -/
def suits : Phase → Background → Prop
  | due o, .run q | running o _, .run q => q.origin = o
  | released, .run _ => True
  | aside, .delivery _ => True
  | _, _ => False

end Phase

/-- A run is for the workflow and the record that its key names. -/
def QueuedRun.IsSound (q : QueuedRun) : Prop :=
  q.key = Dispatch.keyFor q.workflow.record q.context

/-- An entry that may be shown after another: under the same identifier, of the origin, and still
completed if it was. -/
structure Execution.Follows (o : Origin) (e e' : Execution) : Prop where
  id : e'.id = e.id
  origin : e'.origin = o
  known : ∃ status, e'.status = .known status
  completed : e.isCompleted = true → e'.isCompleted = true

/-- An entry under which a run may be opened. -/
structure Execution.Opens (o : Origin) (e : Execution) : Prop where
  origin : e.origin = o
  running : e.status = .known .running

namespace Duty

variable {declared : Uid × Bool → Prop}

/-- What may be asked in a phase.  Definitions are only known as the store has declared them. -/
def may (declared : Uid × Bool → Prop) : Phase → Request → Prop
  | .idle, r => r.isPrompt = true ∨ (∃ key, r = .claim key) ∨
      ∃ q, r = .start (.run q) ∧ q.IsSound ∧ declared (q.key.workflowId, false)
  | .claiming key, r => r = .hasCompleted key ∨ r = .release key
  | .cleared key, r => ∃ q, r = .start (.run q) ∧ q.IsSound ∧ q.key = key
  | .due o, r => r.isPrompt = true ∨ (∃ e, r = .openExecution e ∧ e.Opens o) ∨
      r = .release o.key
  | .running o e, r => r.isPrompt = true ∨
      (∃ e', (r = .publishExecution e' ∨ r = .finishExecution e') ∧ e.Follows o e') ∨
      r = .release o.key
  | .released, _ => False
  | .aside, r => r.isAside = true

/-- The answers to reckon with: definitions are listed as declared, an entry is opened under an
identifier that was issued, and the log takes what it is told. -/
def expects (declared : Uid × Bool → Prop) : (r : Request) → Except Failure r.Answer → Prop
  | .listActive .., .ok ws => ∀ w ∈ ws, declared (w.record.id, w.record.runOnce)
  | .openExecution e, .ok e' => ∃ n, e' = { e with id := .issued n }
  | .log _, .error _ => False
  | _, _ => True

/-- The phase after an answer. -/
def next : Phase → (r : Request) → Except Failure r.Answer → Phase
  | .idle, .claim key, .ok true => .claiming key
  | .claiming key, .hasCompleted _, .ok false => .cleared key
  | .claiming _, .release _, _ => .idle
  | .cleared _, .start _, _ => .idle
  | .due o, .openExecution _, .ok e => .running o e
  | .due _, .release _, _ => .released
  | .running o _, .publishExecution e, _ => .running o e
  | .running o _, .finishExecution e, _ => .running o e
  | .running _ _, .release _, _ => .released
  | p, _, _ => p

end Duty

/-- The engine's code of conduct. -/
def duty (declared : Uid × Bool → Prop) : Conduct Phase where
  may := Duty.may declared
  expects := Duty.expects declared
  next := Duty.next

namespace Duty

open Prog (ask leads_bind leads_ask leads_ask_bind leads_stay_bind leads_attempt leads_ofExcept)

variable {declared : Uid × Bool → Prop}

/-! ## What is asked along the way -/

/-- Phases in which much may be asked along the way. -/
def IsOpen : Phase → Prop
  | .idle | .due _ | .running _ _ => True
  | _ => False

theorem next_of_aside {p : Phase} (isOpen : IsOpen p) {r : Request} (aside : r.isAside = true)
    (x : Except Failure r.Answer) : next p r x = p := by
  cases p with
  | idle => cases r <;> first | rfl | cases aside
  | due o => cases r <;> first | rfl | cases aside
  | running o e => cases r <;> first | rfl | cases aside
  | _ => cases isOpen

theorem may_of_prompt {p : Phase} (isOpen : IsOpen p) {r : Request} (prompt : r.isPrompt = true) :
    may declared p r := by
  cases p with
  | idle => exact .inl prompt
  | due o => exact .inl prompt
  | running o e => exact .inl prompt
  | _ => cases isOpen

section

variable {α β : Type} {p : Phase}

/-- A program that is prompt keeps to the code and leaves the phase as it is. -/
theorem leads_prompt {m : Prog α} {wanted : Except Failure α → Phase → Prop} (h : m.IsPrompt)
    (isOpen : IsOpen p) (ends : ∀ x, wanted x p) : m.Leads (duty declared) wanted p :=
  h.leads (fun _ prompt => ⟨may_of_prompt isOpen prompt,
    next_of_aside isOpen (Request.isAside_of_isPrompt prompt)⟩) ends

/-- What is asked along the way may fail, and else the rest goes on in the same phase. -/
theorem leads_prompt_bind {r : Request} {rest : r.Answer → Prog β}
    {wanted : Except Failure β → Phase → Prop} (prompt : r.isPrompt = true) (isOpen : IsOpen p)
    (fails : ∀ e, wanted (.error e) p)
    (goesOn : ∀ a, expects declared r (.ok a) → (rest a).Leads (duty declared) wanted p) :
    (ask r >>= rest).Leads (duty declared) wanted p :=
  leads_stay_bind (may_of_prompt isOpen prompt)
    (next_of_aside isOpen (Request.isAside_of_isPrompt prompt)) (fun e _ => fails e) goesOn

end

/-! ## Dispatching -/

/-- How a claim may end. -/
inductive ClaimEnds (key : RunKey) : Except Failure Bool → Phase → Prop where
  | cleared : ClaimEnds key (.ok true) (.cleared key)
  | refused : ClaimEnds key (.ok false) .idle
  | failed (e : Failure) : ClaimEnds key (.error e) .idle

theorem leads_claim (key : RunKey) :
    (Dispatch.claim key).Leads (duty declared) (ClaimEnds key) .idle := by
  refine leads_ask_bind (.inr (.inl ⟨key, rfl⟩)) (fun e _ => ClaimEnds.failed e) ?_
  intro claimed _
  cases claimed with
  | false => exact ClaimEnds.refused
  | true =>
      refine leads_bind (leads_attempt (leads_ask (.inl rfl) ?_))
      intro x _
      cases x with
      | error f =>
          refine leads_ask_bind (.inr rfl) (fun e _ => ClaimEnds.failed e) ?_
          intro _ _
          exact ClaimEnds.failed f
      | ok completed =>
          cases completed with
          | false => exact ClaimEnds.cleared
          | true =>
              refine leads_ask_bind (.inr rfl) (fun e _ => ClaimEnds.failed e) ?_
              intro _ _
              exact ClaimEnds.refused

theorem leads_consider (kind : Open TriggerKind) (context : Context) {w : Filed Workflow}
    (known : declared (w.record.id, w.record.runOnce)) :
    (Dispatch.consider kind context w).Leads (duty declared) (fun _ p => p = .idle) .idle := by
  refine leads_bind (leads_ofExcept ?_)
  cases w.record.isEligible kind context with
  | error f => exact rfl
  | ok eligible =>
      cases eligible with
      | false => exact rfl
      | true =>
          cases once : w.record.runOnce with
          | true =>
              rw [once] at known
              refine leads_bind ?_
              simp only [Dispatch.mayRun, once, if_true]
              refine (leads_claim _).mono ?_
              intro x p ended
              cases ended with
              | failed e => exact rfl
              | refused => exact leads_prompt_bind rfl trivial (fun _ => rfl) fun _ _ => rfl
              | cleared => exact leads_ask_bind ⟨_, rfl, rfl, rfl⟩ (fun _ _ => rfl) fun _ _ => rfl
          | false =>
              rw [once] at known
              refine leads_bind ?_
              simp only [Dispatch.mayRun, once]
              refine leads_ask_bind (.inr (.inr ⟨_, rfl, rfl, known⟩)) ?_ ?_
              · intro _ _
                exact rfl
              · intro _ _
                exact rfl

theorem leads_considerAll (kind : Open TriggerKind) (context : Context)
    {ws : List (Filed Workflow)} (known : ∀ w ∈ ws, declared (w.record.id, w.record.runOnce)) :
    (Dispatch.considerAll kind context ws).Leads (duty declared) (fun _ p => p = .idle) .idle := by
  induction ws with
  | nil => exact rfl
  | cons w ws ih =>
      have here := leads_consider kind context (known w List.mem_cons_self)
      refine leads_bind (leads_attempt (here.mono ?_))
      rintro x p rfl
      cases x with
      | error f => exact leads_prompt_bind rfl trivial (fun _ => rfl) fun _ _ => rfl
      | ok started =>
          have rest := ih fun v hv => known v (List.mem_cons_of_mem w hv)
          refine leads_bind (rest.mono ?_)
          rintro x p rfl
          cases x with
          | error e => exact rfl
          | ok ids => exact rfl

/-- A dispatch keeps to the code and holds nothing in the end. -/
theorem leads_dispatch (kind : Open TriggerKind) (context : Context) :
    (Dispatch.dispatch kind context).Leads (duty declared) (fun _ p => p.isEnd) .idle := by
  have listing : may declared .idle (.listActive context.entityType kind) := .inl rfl
  refine leads_bind (leads_attempt (leads_ask listing ?_))
  intro x known
  cases x with
  | error f => exact leads_prompt_bind rfl trivial (fun _ => trivial) fun _ _ => trivial
  | ok ws =>
      refine (leads_considerAll kind context known).mono ?_
      rintro x p rfl
      exact trivial

/-! ## Running -/

section

variable {o : Origin} {e e' : Execution}

theorem follows_refl {status : RunStatus} (origin : e.origin = o)
    (known : e.status = .known status) : e.Follows o e :=
  ⟨rfl, origin, ⟨status, known⟩, id⟩

/-- A run that is under way has one more outcome, or is closed. -/
theorem follows_append (h : e.Follows o e') (x : ActionOutcome) : e.Follows o (e'.append x) :=
  ⟨h.id, h.origin, h.known, h.completed⟩

theorem follows_closeFailed (h : e.Follows o e') (under : e.isCompleted = false)
    (message : Option String) (now : Instant) : e.Follows o (e'.closeFailed message now) :=
  ⟨h.id, h.origin, ⟨.failed, rfl⟩, fun completed => by rw [under] at completed; cases completed⟩

theorem follows_closeCompleted (h : e.Follows o e') (now : Instant) :
    e.Follows o (e'.closeCompleted now) :=
  ⟨h.id, h.origin, ⟨.completed, rfl⟩, fun _ => rfl⟩

theorem leads_publish {β : Type} {rest : Unit → Prog β} {wanted : Except Failure β → Phase → Prop}
    (h : e.Follows o e') (fails : ∀ f, wanted (.error f) (.running o e'))
    (goesOn : (rest ()).Leads (duty declared) wanted (.running o e')) :
    (ask (.publishExecution e') >>= rest).Leads (duty declared) wanted (.running o e) :=
  leads_ask_bind (.inr (.inl ⟨e', .inl rfl, h⟩)) (fun f _ => fails f) fun _ _ => goesOn

theorem leads_finishEntry {β : Type} {rest : Execution → Prog β}
    {wanted : Except Failure β → Phase → Prop} (h : e.Follows o e')
    (fails : ∀ f, wanted (.error f) (.running o e'))
    (goesOn : ∀ x, (rest x).Leads (duty declared) wanted (.running o e')) :
    (ask (.finishExecution e') >>= rest).Leads (duty declared) wanted (.running o e) :=
  leads_ask_bind (.inr (.inl ⟨e', .inr rfl, h⟩)) (fun f _ => fails f) fun x _ => goesOn x

/-- A run has begun, and may have an entry. -/
def IsRunOf (o : Origin) (p : Phase) : Prop := p = .due o ∨ ∃ e, p = .running o e

/-- Where the loop over the actions leaves a run: the entry that it has come to follows the one
that was last shown, which is not completed. -/
inductive LoopEnds (o : Origin) : Except Failure Run.Progress → Phase → Prop where
  | through (e e' : Execution) (under : e.isCompleted = false) (h : e.Follows o e') :
      LoopEnds o (.ok (.through e')) (.running o e)
  | stopped (e e' : Execution) (error : Option String) (under : e.isCompleted = false)
      (h : e.Follows o e') : LoopEnds o (.ok (.stopped e' error)) (.running o e)
  | raised (e e' : Execution) (f : Failure) (under : e.isCompleted = false)
      (h : e.Follows o e') : LoopEnds o (.ok (.raised e' f)) (.running o e)
  | failed (e : Execution) (f : Failure) : LoopEnds o (.error f) (.running o e)

theorem leads_runActions (site : Runner.Site) (actions : List Action) (origin : e.origin = o)
    (running : e.status = .known .running) :
    (Run.runActions site actions e).Leads (duty declared) (LoopEnds o) (.running o e) := by
  have under : e.isCompleted = false := by simp [Execution.isCompleted, running]
  induction actions generalizing e with
  | nil => exact LoopEnds.through e e under (follows_refl origin running)
  | cons a actions ih =>
      have still := follows_refl origin running
      have tried : (Runner.execute site a).attempt.IsPrompt :=
        Prog.only_attempt (Runner.isPrompt_execute site a)
      refine leads_bind (leads_prompt tried trivial ?_)
      intro x
      cases x with
      | error f => exact LoopEnds.failed e f
      | ok x =>
          cases x with
          | error f => exact LoopEnds.raised e e f under still
          | ok x =>
              show Prog.Leads _ _ _ (if x.status = .failed then _ else _)
              split
              · exact LoopEnds.stopped e _ _ under (follows_append still x)
              · refine leads_publish (follows_append still x) (fun f => LoopEnds.failed _ f) ?_
                exact ih origin running under

theorem leads_finish (workflowId : Uid) (h : e.Follows o e') :
    (Run.finish workflowId e').Leads (duty declared) (fun _ p => IsRunOf o p)
      (.running o e) := by
  obtain ⟨status, known⟩ := h.known
  have here : IsRunOf o (.running o e') := .inr ⟨e', rfl⟩
  refine leads_publish h (fun _ => here) ?_
  refine leads_finishEntry (follows_refl h.origin known) (fun _ => here) fun _ => ?_
  refine leads_prompt_bind rfl trivial (fun _ => here) fun _ _ => ?_
  refine leads_prompt_bind rfl trivial (fun _ => here) fun _ _ => ?_
  exact leads_prompt_bind rfl trivial (fun _ => here) fun _ _ => here

theorem leads_abort (workflowId : Uid) (f : Failure) (h : e.Follows o e')
    (under : e.isCompleted = false) :
    (Run.abort workflowId e' f).Leads (duty declared) (fun _ p => IsRunOf o p)
      (.running o e) := by
  have before : IsRunOf o (.running o e) := .inr ⟨e, rfl⟩
  refine leads_prompt_bind rfl trivial (fun _ => before) fun _ _ => ?_
  refine leads_prompt_bind rfl trivial (fun _ => before) fun now _ => ?_
  have closes := follows_closeFailed h under (some f.report) now
  have after : IsRunOf o (.running o (e'.closeFailed (some f.report) now)) := .inr ⟨_, rfl⟩
  refine leads_publish closes (fun _ => after) ?_
  refine leads_finishEntry (follows_refl h.origin rfl) (fun _ => after) fun _ => ?_
  exact leads_prompt_bind rfl trivial (fun _ => after) fun _ _ => after

theorem leads_run (settings : Settings) (workflow : Workflow) (trigger : Open TriggerKind)
    (context : Context) (triggeredBy : Option String)
    (origin : ⟨Dispatch.keyFor workflow context, trigger⟩ = o) :
    (Run.run settings workflow trigger context triggeredBy).Leads (duty declared)
      (fun _ p => IsRunOf o p) (.due o) := by
  refine leads_prompt_bind rfl trivial (fun _ => .inl rfl) fun now _ => ?_
  have opens : (Execution.opening workflow trigger context triggeredBy now).Opens o :=
    ⟨origin, rfl⟩
  refine leads_ask_bind (.inr (.inl ⟨_, rfl, opens⟩)) (fun _ _ => .inl rfl) ?_
  rintro e ⟨n, he⟩
  have opened : e.Opens o := by
    rw [he]
    exact ⟨opens.origin, opens.running⟩
  refine leads_prompt_bind rfl trivial (fun _ => .inr ⟨_, rfl⟩) fun _ _ => ?_
  refine leads_bind ((leads_runActions _ _ opened.origin opened.running).mono ?_)
  intro x p ended
  cases ended with
  | failed e f => exact Or.inr ⟨e, rfl⟩
  | raised e e' f under h => exact leads_abort workflow.id f h under
  | stopped e e' error under h =>
      refine leads_prompt_bind rfl trivial (fun _ => .inr ⟨e, rfl⟩) fun now _ => ?_
      exact leads_finish workflow.id (follows_closeFailed h under error now)
  | through e e' under h =>
      refine leads_prompt_bind rfl trivial (fun _ => .inr ⟨e, rfl⟩) fun now _ => ?_
      exact leads_finish workflow.id (follows_closeCompleted h now)

theorem isOpen_of_isRunOf {p : Phase} (h : IsRunOf o p) : IsOpen p := by
  rcases h with rfl | ⟨e, rfl⟩ <;> trivial

theorem leads_release {p : Phase} (h : IsRunOf o p) :
    (ask (.release o.key)).Leads (duty declared) (fun _ p => p.isEnd) p := by
  rcases h with rfl | ⟨e, rfl⟩
  · exact leads_ask (.inr (.inr rfl)) fun _ _ => trivial
  · exact leads_ask (.inr (.inr rfl)) fun _ _ => trivial

/-- A run in the background keeps to the code and holds nothing in the end. -/
theorem leads_background (settings : Settings) {q : QueuedRun} (sound : q.IsSound) :
    (Dispatch.background settings q).Leads (duty declared) (fun _ p => p.isEnd)
      (.due q.origin) := by
  refine Dispatch.leads_background (leads_run settings q.workflow.record q.trigger q.context none
    (by rw [← sound]; rfl)) ?_ (fun _ _ _ _ logged => nomatch logged) fun _ => leads_release
  intro p entry h
  have isOpen := isOpen_of_isRunOf h
  exact ⟨may_of_prompt isOpen rfl, next_of_aside isOpen rfl⟩

/-- The phase in which work in the background begins. -/
def begins : Background → Phase
  | .run q => .due q.origin
  | .delivery _ => .aside

theorem suits_begins (work : Background) : (begins work).suits work := by
  cases work with
  | run q => rfl
  | delivery job => trivial

/-- All work in the background keeps to the code. -/
theorem leads_program (settings : Settings) {work : Background}
    (sound : ∀ q, work = .run q → q.IsSound) :
    (work.program settings).Leads (duty declared) (fun _ p => p.isEnd) (begins work) := by
  cases work with
  | run q => exact leads_background settings (sound q rfl)
  | delivery job =>
      exact (Deliver.isAside_background settings job).leads (fun _ aside => ⟨aside, fun _ => rfl⟩)
        fun _ => trivial

/-- A phase goes on to suit the work. -/
theorem suits_next {p : Phase} {r : Request} (x : Except Failure r.Answer) {work : Background}
    (allowed : may declared p r) (suits : p.suits work) : (next p r x).suits work := by
  cases work with
  | delivery job =>
      cases p with
      | aside => trivial
      | _ => cases suits
  | run q =>
      cases p with
      | due o =>
          rcases allowed with prompt | ⟨e, rfl, _⟩ | rfl
          · rwa [next_of_aside (p := .due o) trivial (Request.isAside_of_isPrompt prompt)]
          · cases x <;> exact suits
          · cases x <;> trivial
      | running o e =>
          rcases allowed with prompt | ⟨e', rfl | rfl, _⟩ | rfl
          · rwa [next_of_aside (p := .running o e) trivial (Request.isAside_of_isPrompt prompt)]
          · cases x <;> exact suits
          · cases x <;> exact suits
          · cases x <;> trivial
      | released => cases allowed
      | _ => cases suits

end

end Duty
end RecordFlow
