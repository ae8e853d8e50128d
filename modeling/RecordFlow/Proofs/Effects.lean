/-
# Effects — what actions leave outside the ledger, and where it is told

Four kinds of action leave a record outside the ledger: a task, an entry of the
activity log, an e-mail, a delivery.  The outcome of such an action names its
record, and stands in the entry of the run for which the record was made.

Between the record and the outcome the run has something to tell.  This is put
as a code of conduct: a run makes a record only when it has nothing to tell,
and then shows its entry with the outcome before it asks for anything else.
What is not an outcome of success tells of nothing.  Runs keep to the code,
`leads_run`, and what makes a delivery never changes for what it was made,
`only_background`.
-/
import RecordFlow.Proofs.Posting

namespace RecordFlow

/-! ## Records and what tells of them -/

/-- What a record was made for. -/
inductive Cause where
  /-- A record of a kind of entity. -/
  | record (entityType entityId : String)
  /-- An action of a run of a workflow. -/
  | action (workflowId : Option Uid) (executionId : Option RecordId) (actionId : Uid)

/-- A record that an action leaves outside the ledger. -/
structure Effect where
  kind : ActionKind
  /-- Under which identifier the record is known. -/
  id : Value
  cause : Cause

/-- A task as what an action leaves. -/
def TaskRecord.effect (t : TaskRecord) : Effect :=
  ⟨.createTask, .text t.id, .record t.relatedType t.relatedId⟩

/-- An entry of the activity log as what an action leaves. -/
def ActivityRecord.effect (a : ActivityRecord) : Effect :=
  ⟨.createActivity, .text a.id, .record a.relatedType a.relatedId⟩

/-- An e-mail as what an action leaves. -/
def EmailRecord.effect (m : EmailRecord) : Effect :=
  ⟨.sendEmail, .text m.id, .record m.relatedType m.relatedId⟩

/-- A line of the log of deliveries as what an action leaves. -/
def DeliveryLine.effect (l : DeliveryLine) : Effect :=
  ⟨.sendWebhook, .text l.id.deliveryText, .action l.workflowId l.executionId l.actionId⟩

namespace Execution

/-- The record that an outcome tells of. -/
def effect? (e : Execution) (o : ActionOutcome) : Option Effect :=
  match o.status, o.kind with
  | .success, .known .createTask =>
    some ⟨.createTask, o.result.field "taskId", .record e.entityType e.entityId⟩
  | .success, .known .createActivity =>
    some ⟨.createActivity, o.result.field "activityId", .record e.entityType e.entityId⟩
  | .success, .known .sendEmail =>
    some ⟨.sendEmail, o.result.field "emailLogId", .record e.entityType e.entityId⟩
  | .success, .known .sendWebhook =>
    some ⟨.sendWebhook, o.result.field "deliveryId",
      .action (some e.workflowId) (some e.id) o.actionId⟩
  | _, _ => none

/-- The records that an entry tells of. -/
def effects (e : Execution) : List Effect := e.outcomes.filterMap e.effect?

/-- Of which run for which record an entry is. -/
def identity (e : Execution) : RecordId × Uid × String × String :=
  (e.id, e.workflowId, e.entityType, e.entityId)

theorem effect?_of_identity {e e' : Execution} (h : e'.identity = e.identity) :
    e'.effect? = e.effect? := by
  simp only [identity, Prod.mk.injEq] at h
  obtain ⟨id, workflowId, entityType, entityId⟩ := h
  funext o
  simp only [effect?, id, workflowId, entityType, entityId]

@[simp] theorem effects_append (e : Execution) (o : ActionOutcome) :
    (e.append o).effects = e.effects ++ (e.effect? o).toList := by
  have same : (e.append o).effect? = e.effect? := effect?_of_identity rfl
  rw [effects, same, append, List.filterMap_append]
  cases told : e.effect? o <;> simp [effects, told]

theorem effect?_of_not_success {e : Execution} {o : ActionOutcome} (h : o.status ≠ .success) :
    e.effect? o = none := by
  unfold effect?
  split <;> first | rfl | contradiction

end Execution

/-- An outcome names nothing unless the action has succeeded. -/
def ActionOutcome.IsFrank (o : ActionOutcome) : Prop := o.status ≠ .success → o.result = .null

namespace Execution

/-- All outcomes of an entry are frank. -/
def IsFrank (e : Execution) : Prop := ∀ o ∈ e.outcomes, o.IsFrank

/-- An entry continues another of the same run and tells of these records besides. -/
structure Continues (e : Execution) (made : List Effect) (e' : Execution) : Prop where
  identity : e'.identity = e.identity
  effects : e'.effects = e.effects ++ made
  frank : e.IsFrank → e'.IsFrank

namespace Continues

variable {e e' e'' : Execution} {made : List Effect}

theorem refl (e : Execution) : e.Continues [] e :=
  ⟨rfl, (List.append_nil _).symm, fun frank => frank⟩

theorem trans (h : e.Continues made e') (h' : e'.Continues [] e'') : e.Continues made e'' where
  identity := h'.identity.trans h.identity
  effects := by rw [h'.effects, h.effects, List.append_nil]
  frank := h'.frank ∘ h.frank

theorem append {o : ActionOutcome} (frank : o.IsFrank) :
    e.Continues (e.effect? o).toList (e.append o) where
  identity := rfl
  effects := e.effects_append o
  frank frank' x hx := by
    rcases List.mem_append.mp hx with hx | hx
    · exact frank' x hx
    · exact List.mem_singleton.mp hx ▸ frank

theorem closeFailed (message : Option String) (now : Instant) :
    e.Continues [] (e.closeFailed message now) :=
  ⟨rfl, (List.append_nil _).symm, fun frank => frank⟩

theorem closeCompleted (now : Instant) : e.Continues [] (e.closeCompleted now) :=
  ⟨rfl, (List.append_nil _).symm, fun frank => frank⟩

end Continues

end Execution

/-! ## The code -/

/-- How far a piece of work is in making records and telling of them. -/
inductive Telling where
  /-- It has no entry. -/
  | idle
  /-- Its entry was shown last as it stands here, and it may have a record to tell of. -/
  | holding (e : Execution) (untold : Option Effect)
  /-- It has opened a delivery that is yet to be started. -/
  | owing (e : Execution) (d : Delivery)
  /-- It makes a delivery. -/
  | bearing (d : Delivery)

namespace Telling

/-- The entry that a piece of work has. -/
def inHand? : Telling → Option Execution
  | holding e _ | owing e _ => some e
  | _ => none

/-- The record that is yet to be told of. -/
def untold? : Telling → Option Effect
  | holding _ untold => untold
  | owing _ d => some d.line.effect
  | _ => none

/-- The delivery that a piece of work has opened or makes. -/
def delivery? : Telling → Option Delivery
  | owing _ d | bearing d => some d
  | _ => none

/-- Where work may end: all is told. -/
def ends (p : Telling) : Prop := p.untold? = none

/-- Whether the work is a run or a call, rather than one that makes a delivery. -/
def isTeller : Telling → Bool
  | bearing _ => false
  | _ => true

/-- Runs tell of what they make. -/
def suits (p : Telling) (work : Background) : Prop := p.isTeller = work.isRun

end Telling

namespace Request

/-- For what a request to the services makes a record. -/
def cause? : Request → Option Cause
  | createTask t => some (.record t.relatedType t.relatedId)
  | createActivity a => some (.record a.relatedType a.relatedId)
  | logEmail m => some (.record m.relatedType m.relatedId)
  | _ => none

/-- Whether a request makes a record, writes an entry or concerns the log of deliveries. -/
def isRecording (r : Request) : Bool := r.writesEntry || r.isPostal || r.cause?.isSome

variable {r : Request}

theorem plain_of_isRecording (h : r.isRecording = false) :
    r.writesEntry = false ∧ r.isPostal = false ∧ r.cause? = none := by
  simpa [isRecording, and_assoc] using h

theorem isRecording_of_isRoutine (routine : r.isRoutine = true) : r.isRecording = false := by
  cases r <;> first | rfl | cases routine

theorem isRecording_of_isMatching (matching : r.isMatching = true) : r.isRecording = false := by
  cases r with
  | start work =>
      cases work with
      | run q => rfl
      | delivery job => cases matching
  | _ => first | rfl | cases matching

end Request

namespace Accounting

/-- What may be asked at a stage. -/
inductive May : Telling → Request → Prop where
  | plain {p : Telling} {r : Request} (plain : r.isRecording = false) (told : p.untold? = none) :
      May p r
  | opens {e : Execution} (empty : e.outcomes = []) : May .idle (.openExecution e)
  | makes {e : Execution} {r : Request}
      (cause : r.cause? = some (.record e.entityType e.entityId)) :
      May (.holding e none) r
  | submits {e : Execution} {d : Delivery} (legible : d.line.IsLegible)
      (workflowId : d.workflowId = some e.workflowId) (executionId : d.executionId = some e.id) :
      May (.holding e none) (.openDelivery d)
  | starts {e : Execution} {d : Delivery} {job : QueuedDelivery} (same : job.delivery = d) :
      May (.owing e d) (.start (.delivery job))
  | shows {e e' : Execution} {untold : Option Effect} (continues : e.Continues untold.toList e') :
      May (.holding e untold) (.publishExecution e')
  | finishes {e : Execution} : May (.holding e none) (.finishExecution e)
  | tells {d d' : Delivery} (id : d'.id = d.id) (effect : d'.line.effect = d.line.effect) :
      May (.bearing d) (.publishDelivery d')
  | saves {d d' : Delivery} (id : d'.id = d.id) (effect : d'.line.effect = d.line.effect)
      (legible : d'.line.IsLegible) : May (.bearing d) (.saveDelivery d')

/-- The answers to reckon with: what is opened has an identifier and is else as it was, and what is
started starts. -/
def expects : (r : Request) → Except Failure r.Answer → Prop
  | .openExecution e, .ok e' => ∃ id, e' = { e with id }
  | .openDelivery d, .ok d' => ∃ id, d' = { d with id }
  | .start _, .error _ => False
  | _, _ => True

/-- The stage after an answer. -/
def next : Telling → (r : Request) → Except Failure r.Answer → Telling
  | .idle, .openExecution _, .ok e => .holding e none
  | .holding e none, .createTask t, .ok id => .holding e (some { t with id : TaskRecord }.effect)
  | .holding e none, .createActivity a, .ok id =>
    .holding e (some { a with id : ActivityRecord }.effect)
  | .holding e none, .logEmail m, .ok id => .holding e (some { m with id : EmailRecord }.effect)
  | .holding e none, .openDelivery _, .ok d => .owing e d
  | .owing e d, .start (.delivery _), _ => .holding e (some d.line.effect)
  | .holding _ _, .publishExecution e, _ => .holding e none
  | p, _, _ => p

end Accounting

/-- The code by which records are made and told of. -/
def accounting : Conduct Telling where
  may := Accounting.May
  expects := Accounting.expects
  next := Accounting.next

namespace Accounting

open Prog (ask leads_bind leads_silent_bind leads_ask leads_ask_bind leads_stay_bind leads_attempt
  leads_map leads_ofExcept)

theorem next_of_plain {p : Telling} {r : Request} (plain : r.isRecording = false)
    (x : Except Failure r.Answer) : next p r x = p := by
  unfold next
  split <;> first | rfl | cases plain

theorem next_shows (e e' : Execution) (untold : Option Effect)
    (x : Except Failure (Request.publishExecution e').Answer) :
    accounting.next (.holding e untold) (.publishExecution e') x = .holding e' none := by
  cases untold <;> rfl

theorem suits_next {p : Telling} {r : Request} (x : Except Failure r.Answer) {work : Background}
    (suits : p.suits work) : (next p r x).suits work := by
  have same : (next p r x).isTeller = p.isTeller := by
    unfold next
    split <;> rfl
  exact same.trans suits

section

variable {α β : Type} {p : Telling} {wanted : Except Failure β → Telling → Prop}

/-- What records nothing may be asked where all is told. -/
theorem leads_plain_bind {r : Request} {rest : r.Answer → Prog β} (plain : r.isRecording = false)
    (told : p.untold? = none) (fails : ∀ f, wanted (.error f) p)
    (goesOn : ∀ a, (rest a).Leads accounting wanted p) :
    (ask r >>= rest).Leads accounting wanted p :=
  leads_stay_bind (.plain plain told) (next_of_plain plain) (fun f _ => fails f) fun a _ => goesOn a

theorem leads_only {m : Prog α} {wanted : Except Failure α → Telling → Prop}
    (h : m.Only fun r => r.isRecording = false) (told : p.untold? = none)
    (ends : ∀ x, wanted x p) : m.Leads accounting wanted p :=
  h.leads (fun _ plain => ⟨.plain plain told, next_of_plain plain⟩) ends

end

/-! ### Actions -/

/-- The kinds of action that a configuration is of. -/
def kinds : ActionConfig → List ActionKind
  | .email _ => [.sendEmail]
  | .task _ => [.createTask]
  | .field _ => [.updateField]
  | .webhook _ => [.sendWebhook]
  | .owner _ => [.assignOwner]
  | .tag _ => [.addTag, .removeTag]
  | .activity _ => [.createActivity]
  | .delay _ => [.waitDelay]
  | .branch _ => [.conditionBranch]

theorem mem_kinds_of_readFields {kind : ActionKind} {raw : Fields} {config : ActionConfig}
    (h : ActionConfig.readFields kind raw = .ok config) : kind ∈ kinds config := by
  cases kind <;> obtain ⟨c, _, rfl⟩ := ok_of_map_ok h <;> simp [kinds]

theorem mem_kinds_of_read {kind : ActionKind} {stored : Value} {config : ActionConfig}
    (h : ActionConfig.read kind stored = .ok config) : kind ∈ kinds config := by
  unfold ActionConfig.read at h
  split at h
  · exact mem_kinds_of_readFields h
  · exact mem_kinds_of_readFields h
  · cases h

/-- A site is that of the run of an entry. -/
structure IsSiteOf (site : Runner.Site) (e : Execution) : Prop where
  entityType : site.context.entityType = e.entityType
  entityId : site.context.entityId = e.entityId
  workflowId : site.workflowId = some e.workflowId
  executionId : site.executionId = some e.id

theorem IsSiteOf.continues {site : Runner.Site} {e e' : Execution} {made : List Effect}
    (h : IsSiteOf site e) (continues : e.Continues made e') : IsSiteOf site e' := by
  have same := continues.identity
  simp only [Execution.identity, Prod.mk.injEq] at same
  obtain ⟨id, workflowId, entityType, entityId⟩ := same
  exact ⟨h.entityType.trans entityType.symm, h.entityId.trans entityId.symm,
    h.workflowId.trans (congrArg some workflowId.symm),
    h.executionId.trans (congrArg some id.symm)⟩

/-- How a part of an action leaves a run: with the record to tell of that its value tells of. -/
def Made (e : Execution) (told : Value → Option Effect) : Except Failure Value → Telling → Prop
  | .ok v, p => p = .holding e (told v)
  | .error _, p => p = .holding e none

section

variable {site : Runner.Site} {e : Execution}

theorem IsSiteOf.cause (h : IsSiteOf site e) :
    Cause.record site.context.entityType site.context.entityId
      = .record e.entityType e.entityId := by
  rw [h.entityType, h.entityId]

theorem leads_sendEmail (h : IsSiteOf site e) (c : EmailConfig) :
    (Runner.sendEmail site c).Leads accounting
      (Made e fun v => some ⟨.sendEmail, v.field "emailLogId", .record e.entityType e.entityId⟩)
      (.holding e none) := by
  refine leads_silent_bind (Prog.only_ofExcept _) (fun _ => rfl) fun recipient => ?_
  refine leads_silent_bind (Runner.passes_render site _).only (fun _ => rfl) fun subject => ?_
  refine leads_silent_bind (Runner.passes_render site _).only (fun _ => rfl) fun body => ?_
  refine leads_ask_bind (.makes (congrArg some h.cause)) (fun _ _ => rfl) fun id _ => ?_
  exact congrArg (fun cause => Telling.holding e (some ⟨.sendEmail, .text id, cause⟩)) h.cause

theorem leads_createTask (h : IsSiteOf site e) (c : TaskConfig) :
    (Runner.createTask site c).Leads accounting
      (Made e fun v => some ⟨.createTask, v.field "taskId", .record e.entityType e.entityId⟩)
      (.holding e none) := by
  refine leads_plain_bind rfl rfl (fun _ => rfl) fun now => ?_
  refine leads_silent_bind (Prog.only_ofExcept _) (fun _ => rfl) fun due => ?_
  refine leads_silent_bind (Runner.passes_render site _).only (fun _ => rfl) fun title => ?_
  refine leads_silent_bind (Runner.passes_render? site _).only (fun _ => rfl) fun description => ?_
  refine leads_ask_bind (.makes (congrArg some h.cause)) (fun _ _ => rfl) fun id _ => ?_
  exact congrArg (fun cause => Telling.holding e (some ⟨.createTask, .text id, cause⟩)) h.cause

theorem leads_createActivity (h : IsSiteOf site e) (c : ActivityConfig) :
    (Runner.createActivity site c).Leads accounting
      (Made e fun v => some
        ⟨.createActivity, v.field "activityId", .record e.entityType e.entityId⟩)
      (.holding e none) := by
  refine leads_silent_bind (Runner.passes_render site _).only (fun _ => rfl) fun title => ?_
  refine leads_silent_bind (Runner.passes_render? site _).only (fun _ => rfl) fun description => ?_
  refine leads_ask_bind (.makes (congrArg some h.cause)) (fun _ _ => rfl) fun id _ => ?_
  exact congrArg (fun cause => Telling.holding e (some ⟨.createActivity, .text id, cause⟩)) h.cause

theorem leads_sendWebhook (h : IsSiteOf site e) (actionId : Uid) (c : WebhookConfig) :
    (Runner.sendWebhook site actionId c).Leads accounting
      (Made e fun v => some ⟨.sendWebhook, v.field "deliveryId",
        .action (some e.workflowId) (some e.id) actionId⟩)
      (.holding e none) := by
  refine leads_silent_bind (Runner.passes_requestContent site c).only (fun _ => rfl)
    fun content => ?_
  refine leads_bind (leads_plain_bind rfl rfl (fun _ => rfl) fun now => ?_)
  refine leads_ask_bind (.submits ⟨_, rfl⟩ h.workflowId h.executionId) (fun _ _ => rfl) ?_
  rintro d ⟨id, rfl⟩
  refine leads_ask_bind (.starts rfl) (fun _ never => never.elim) fun _ _ => ?_
  show Telling.holding e _ = Telling.holding e _
  rw [← h.workflowId, ← h.executionId]
  rfl

theorem leads_of_isRoutine {m : Prog Value} (h : m.IsRoutine) :
    m.Leads accounting (Made e fun _ => none) (.holding e none) := by
  refine leads_only (h.only.mono fun _ => Request.isRecording_of_isRoutine) rfl ?_
  intro x
  cases x <;> rfl

/-- The outcome of an action that was performed to its end. -/
def outcomeOf (action : Action) (kind : ActionKind) (x : OutcomeStatus × Value) : ActionOutcome :=
  { actionId := action.id, kind := .known kind, status := x.1, result := x.2 }

/-- How an action leaves a run: with the record to tell of that its outcome tells of. -/
def Acted (e : Execution) : Except Failure ActionOutcome → Telling → Prop
  | .ok o, p => p = .holding e (e.effect? o) ∧ o.IsFrank
  | .error _, p => p = .holding e none

/-- What is made by an action that succeeds is what its outcome tells of. -/
theorem leads_succeed {action : Action} {kind : ActionKind} {m : Prog Value}
    {told : Value → Option Effect} (h : m.Leads accounting (Made e told) (.holding e none))
    (same : ∀ v, told v = e.effect? (outcomeOf action kind (.success, v))) :
    ((fun v => (OutcomeStatus.success, v)) <$> m).Leads accounting
      (fun x p => Acted e (x.map (outcomeOf action kind)) p) (.holding e none) := by
  refine leads_map _ (h.mono ?_)
  rintro x p made
  cases x with
  | error f => exact made
  | ok v => exact ⟨made.trans (congrArg _ (same v)), fun failed => absurd rfl failed⟩

theorem leads_perform (h : IsSiteOf site e) (action : Action) {kind : ActionKind}
    {config : ActionConfig} (read : kind ∈ kinds config) :
    (Runner.perform site action kind config).Leads accounting
      (fun x p => Acted e (x.map (outcomeOf action kind)) p) (.holding e none) := by
  have routine {m : Prog Value} (is : m.IsRoutine)
      (none : ∀ v, none = e.effect? (outcomeOf action kind (.success, v))) :=
    leads_succeed (leads_of_isRoutine (e := e) is) none
  cases config with
  | email c =>
      obtain rfl := List.mem_singleton.mp read
      exact leads_succeed (leads_sendEmail h c) fun _ => rfl
  | task c =>
      obtain rfl := List.mem_singleton.mp read
      exact leads_succeed (leads_createTask h c) fun _ => rfl
  | webhook c =>
      obtain rfl := List.mem_singleton.mp read
      exact leads_succeed (leads_sendWebhook h action.id c) fun _ => rfl
  | activity c =>
      obtain rfl := List.mem_singleton.mp read
      exact leads_succeed (leads_createActivity h c) fun _ => rfl
  | field c =>
      obtain rfl := List.mem_singleton.mp read
      exact routine (Prog.passes_bind (Prog.isRoutine_ask rfl) fun _ _ => Prog.passes_pure trivial)
        fun _ => rfl
  | owner c =>
      obtain rfl := List.mem_singleton.mp read
      exact routine (Runner.isRoutine_assignOwner site c) fun _ => rfl
  | tag c =>
      simp only [kinds, List.mem_cons, List.not_mem_nil, or_false] at read
      rcases read with rfl | rfl
      · exact routine (Runner.isRoutine_addTag site c) fun _ => rfl
      · exact routine (Runner.isRoutine_removeTag site c) fun _ => rfl
  | delay c =>
      obtain rfl := List.mem_singleton.mp read
      exact ⟨rfl, fun _ => rfl⟩
  | branch c =>
      obtain rfl := List.mem_singleton.mp read
      exact routine (Prog.passes_bind (Prog.passes_ofExcept (Condition.owned_evalAll _ _))
        fun _ _ => Prog.passes_pure trivial) fun _ => rfl

theorem leads_execute (h : IsSiteOf site e) (action : Action) :
    (Runner.execute site action).Leads accounting (Acted e) (.holding e none) := by
  refine leads_plain_bind rfl rfl (fun _ => rfl) fun _ => ?_
  cases action.kind with
  | foreign word =>
      exact leads_plain_bind rfl rfl (fun _ => rfl) fun _ => ⟨rfl, fun _ => rfl⟩
  | known kind =>
      refine leads_bind (leads_attempt (leads_bind (leads_ofExcept ?_)))
      cases read : ActionConfig.read kind action.config with
      | error f =>
          exact leads_plain_bind rfl rfl (fun _ => rfl) fun _ => ⟨rfl, fun _ => rfl⟩
      | ok config =>
          refine (leads_perform h action (mem_kinds_of_read read)).mono ?_
          rintro x p acted
          cases x with
          | ok x => exact acted
          | error f =>
              obtain rfl := acted
              exact leads_plain_bind rfl rfl (fun _ => rfl) fun _ => ⟨rfl, fun _ => rfl⟩

end

/-! ### Runs -/

/-- The entry as the loop over the actions leaves it. -/
def entryOf : Run.Progress → Execution
  | .through e | .stopped e _ | .raised e _ => e

/-- How the loop leaves a run: with an entry that tells of all that was made. -/
def Looped : Except Failure Run.Progress → Telling → Prop
  | .ok progress, p => ∃ e, p = .holding e none ∧ e.Continues [] (entryOf progress)
  | .error _, p => p.ends

theorem leads_runActions {site : Runner.Site} (actions : List Action) {e : Execution}
    (h : IsSiteOf site e) :
    (Run.runActions site actions e).Leads accounting Looped (.holding e none) := by
  induction actions generalizing e with
  | nil => exact ⟨e, rfl, .refl e⟩
  | cons a actions ih =>
      refine leads_bind (leads_attempt ((leads_execute h a).mono ?_))
      rintro x p acted
      cases x with
      | error f => exact ⟨e, acted, .refl e⟩
      | ok o =>
          obtain ⟨rfl, frank⟩ := acted
          have continues : e.Continues (e.effect? o).toList (e.append o) := .append frank
          show Prog.Leads _ _ _ (if o.status = .failed then _ else _)
          split
          · rename_i failed
            have none : e.effect? o = none := Execution.effect?_of_not_success (by simp [failed])
            rw [none] at continues ⊢
            exact ⟨e, rfl, continues⟩
          · refine leads_ask_bind (.shows continues) ?_ ?_
            · intro f _
              rw [next_shows]
              rfl
            · intro _ _
              rw [next_shows]
              exact ih (h.continues continues)

/-- An entry that has ended is shown and stored, and from there on nothing is recorded. -/
theorem leads_close {α : Type} {e e' : Execution} {rest : Execution → Prog α}
    (continues : e.Continues [] e')
    (goesOn : ∀ x, (rest x).Leads accounting (fun _ p => p.ends) (.holding e' none)) :
    Prog.Leads accounting (fun _ p => p.ends) (.holding e none) (do
      ask (.publishExecution e')
      let x ← ask (.finishExecution e')
      rest x) := by
  refine leads_ask_bind (.shows continues) (fun _ _ => rfl) fun _ _ => ?_
  exact leads_ask_bind .finishes (fun _ _ => rfl) fun x _ => goesOn x

theorem leads_finish (workflowId : Uid) {e e' : Execution} (continues : e.Continues [] e') :
    (Run.finish workflowId e').Leads accounting (fun _ p => p.ends) (.holding e none) := by
  refine leads_close continues fun _ => ?_
  refine leads_plain_bind rfl rfl (fun _ => rfl) fun _ => ?_
  refine leads_plain_bind rfl rfl (fun _ => rfl) fun _ => ?_
  exact leads_plain_bind rfl rfl (fun _ => rfl) fun _ => rfl

theorem leads_abort (workflowId : Uid) {e e' : Execution} (continues : e.Continues [] e')
    (f : Failure) :
    (Run.abort workflowId e' f).Leads accounting (fun _ p => p.ends) (.holding e none) := by
  refine leads_plain_bind rfl rfl (fun _ => rfl) fun _ => ?_
  refine leads_plain_bind rfl rfl (fun _ => rfl) fun now => ?_
  refine leads_close (continues.trans (.closeFailed _ now)) fun _ => ?_
  exact leads_plain_bind rfl rfl (fun _ => rfl) fun _ => rfl

/-- A run keeps to the code, and tells of all that it makes. -/
theorem leads_run (settings : Settings) (workflow : Workflow) (trigger : Open TriggerKind)
    (context : Context) (triggeredBy : Option String) :
    (Run.run settings workflow trigger context triggeredBy).Leads accounting (fun _ p => p.ends)
      .idle := by
  refine leads_plain_bind rfl rfl (fun _ => rfl) fun now => ?_
  refine leads_ask_bind (.opens rfl) (fun _ _ => rfl) ?_
  rintro e ⟨id, rfl⟩
  refine leads_plain_bind rfl rfl (fun _ => rfl) fun _ => ?_
  refine leads_bind ((leads_runActions _ ⟨rfl, rfl, rfl, rfl⟩).mono ?_)
  intro x p looped
  cases x with
  | error f => exact looped
  | ok progress =>
      obtain ⟨e, rfl, continues⟩ := looped
      cases progress with
      | raised e' f => exact leads_abort workflow.id continues f
      | stopped e' error =>
          exact leads_plain_bind rfl rfl (fun _ => rfl) fun now =>
            leads_finish workflow.id (continues.trans (.closeFailed error now))
      | through e' =>
          exact leads_plain_bind rfl rfl (fun _ => rfl) fun now =>
            leads_finish workflow.id (continues.trans (.closeCompleted now))

theorem leads_runById (settings : Settings) (id : Uid) (trigger : Open TriggerKind)
    (context : Context) (triggeredBy : Option String) :
    (Run.runById settings id trigger context triggeredBy).Leads accounting (fun _ p => p.ends)
      .idle :=
  Run.leads_runById (.plain rfl rfl) (fun _ => rfl) rfl fun workflow =>
    leads_run settings workflow trigger context triggeredBy

theorem leads_background (settings : Settings) (q : QueuedRun) :
    (Dispatch.background settings q).Leads accounting (fun _ p => p.ends) .idle :=
  Dispatch.leads_background (leads_run settings q.workflow.record q.trigger q.context none)
    (fun _ _ ended => ⟨.plain rfl ended, next_of_plain rfl⟩) (fun _ _ _ ended _ => ended)
    fun _ ended => leads_only (Prog.only_ask rfl) ended fun _ => ended

/-- A call keeps to the code. -/
theorem leads_call (settings : Settings) (call : Call) :
    (call.program settings).Leads accounting (fun _ p => p.ends) .idle := by
  cases call with
  | dispatch kind context =>
      refine leads_only ?_ rfl fun _ => rfl
      exact Prog.only_map _ ((Keeping.matches_dispatch kind context).mono fun _ =>
        Request.isRecording_of_isMatching)
  | run id trigger context triggeredBy =>
      exact Prog.leads_map _ (leads_runById settings id trigger context triggeredBy)

/-! ### Deliveries -/

/-- What may be asked by the work that makes a delivery. -/
def Conveys (d : Delivery) (r : Request) : Prop :=
  r.isRecording = false ∨ ∃ d', (r = .publishDelivery d' ∨ r = .saveDelivery d') ∧
    d'.id = d.id ∧ d'.line.effect = d.line.effect ∧ d'.line.IsLegible

section

variable {d d' : Delivery}

open Prog (only_bind only_ask only_pure only_attempt)

theorem only_end (entry : LogEntry) (id : d'.id = d.id) (effect : d'.line.effect = d.line.effect)
    (legible : d'.line.IsLegible) :
    Prog.Only (Conveys d) (do
      ask (.publishDelivery d')
      let _ ← ask (.saveDelivery d')
      ask (.log entry)) := by
  refine only_bind (only_ask (.inr ⟨d', .inl rfl, id, effect, legible⟩)) fun _ => ?_
  refine only_bind (only_ask (.inr ⟨d', .inr rfl, id, effect, legible⟩)) fun _ => ?_
  exact only_ask (.inl rfl)

theorem only_giveUp (id : d'.id = d.id) (effect : d'.line.effect = d.line.effect) :
    (Deliver.giveUp d').Only (Conveys d) :=
  only_bind (only_ask (.inl rfl)) fun _ => only_end _ id effect ⟨_, rfl⟩

theorem only_arrive (status : Int) (id : d'.id = d.id) (effect : d'.line.effect = d.line.effect) :
    (Deliver.arrive d' status).Only (Conveys d) :=
  only_bind (only_ask (.inl rfl)) fun _ => only_end _ id effect ⟨_, rfl⟩

theorem only_waitForNext (settings : Settings) (attempt : Nat) (id : d'.id = d.id)
    (effect : d'.line.effect = d.line.effect) (legible : d'.line.IsLegible) :
    (Deliver.waitForNext settings d' attempt).Only (Conveys d) := by
  refine only_bind (only_ask (.inl rfl)) fun _ => ?_
  refine only_bind (only_ask (.inr ⟨d', .inl rfl, id, effect, legible⟩)) fun _ => ?_
  refine only_bind (only_ask (.inr ⟨d', .inr rfl, id, effect, legible⟩)) fun _ => ?_
  exact only_bind (Prog.only_ofExcept _) fun _ => only_ask (.inl rfl)

theorem only_attempts (settings : Settings) (job : QueuedDelivery) (attempt left : Nat)
    (id : d'.id = d.id) (effect : d'.line.effect = d.line.effect) (legible : d'.line.IsLegible) :
    (Deliver.attempts settings job d' attempt left).Only (Conveys d) := by
  induction left generalizing d' attempt with
  | zero => exact only_giveUp id effect
  | succ left ih =>
      refine only_bind (only_ask (.inr ⟨_, .inl rfl, id, effect, legible⟩)) fun _ => ?_
      have exchange : (Deliver.exchange job (d'.attempting attempt)).Only (Conveys d) :=
        only_bind (only_ask (.inl rfl)) fun _ => only_ask (.inl rfl)
      refine only_bind exchange fun outcome => ?_
      cases Deliver.delivering? outcome with
      | some status => exact only_arrive status id effect
      | none =>
          cases traced : Deliver.trace (d'.attempting attempt) outcome with
          | error f => trivial
          | ok d'' =>
              obtain ⟨line, _⟩ := Posting.trace_ok traced
              have id' : d''.id = d.id := (congrArg DeliveryLine.id line).trans id
              have effect' : d''.line.effect = d.line.effect := line ▸ effect
              show Prog.Only _ (if outcome.isRetryable && left != 0 then _ else _)
              split
              · have waits := only_waitForNext settings attempt id' effect' (line ▸ legible)
                exact only_bind waits fun _ => ih (attempt + 1) id' effect' (line ▸ legible)
              · exact only_giveUp id' effect'

theorem only_background (settings : Settings) (job : QueuedDelivery)
    (legible : job.delivery.line.IsLegible) :
    (Deliver.background settings job).Only (Conveys job.delivery) := by
  refine only_bind (only_attempt (only_attempts settings job 1 _ rfl rfl legible)) fun ended => ?_
  cases ended with
  | ok _ => exact only_pure _
  | error f => exact only_bind (only_ask (.inl rfl)) fun _ => only_ask (.inl rfl)

end

theorem leads_conveys {α : Type} {m : Prog α} {d : Delivery} (h : m.Only (Conveys d)) :
    m.Leads accounting (fun _ p => p.ends) (.bearing d) := by
  refine h.leads ?_ fun _ => rfl
  rintro r (plain | ⟨d', rfl | rfl, id, effect, legible⟩)
  · exact ⟨.plain plain rfl, next_of_plain (p := .bearing d) plain⟩
  · exact ⟨.tells id effect, fun _ => rfl⟩
  · exact ⟨.saves id effect legible, fun _ => rfl⟩

/-- The stage at which work in the background begins. -/
def begins : Background → Telling
  | .run _ => .idle
  | .delivery job => .bearing job.delivery

theorem suits_begins (work : Background) : (begins work).suits work := by
  cases work <;> rfl

/-- All work in the background keeps to the code. -/
theorem leads_work (settings : Settings) (work : Background)
    (legible : ∀ d, work.delivery? = some d → d.line.IsLegible) :
    (work.program settings).Leads accounting (fun _ p => p.ends) (begins work) := by
  cases work with
  | run q => exact leads_background settings q
  | delivery job => exact leads_conveys (only_background settings job (legible _ rfl))

end Accounting

end RecordFlow
