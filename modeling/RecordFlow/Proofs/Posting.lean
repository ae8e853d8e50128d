/-
# Posting — how deliveries are submitted and made

A run submits a delivery by opening its line in the log, and then starts it.
The delivery is carried from there on: its line is written anew with every
attempt, its end is told and saved, and if anything else happens it is dropped
with a crash that the engine tells of.  This is put as a code of conduct, which
all work keeps to: `posts_run` and `leads_deliver`.

A delivery is never dropped in calm.  That is where the client raises only what
is an outcome of a request and is open, where saves do not fail, and where
every pause can be computed.
-/
import RecordFlow.Proofs.Entries
import RecordFlow.Proofs.Mail

namespace RecordFlow

/-! ## Open and closed lines -/

namespace DeliveryLine

/-- Whether a line is of a delivery that has not ended. -/
def isOpen (l : DeliveryLine) : Bool :=
  l.status = .ofOpen (.known .pending) && !l.completed

/-- Whether a line is of a delivery that was delivered or has failed, and when is known. -/
def isClosed (l : DeliveryLine) : Bool :=
  (l.status = .ofOpen (.known .delivered) || l.status = .ofOpen (.known .failed)) && l.completed

variable {l : DeliveryLine}

theorem isLegible_of_isOpen (h : l.isOpen = true) : l.IsLegible := by
  simp only [isOpen, Bool.and_eq_true, decide_eq_true_eq] at h
  exact ⟨_, h.1⟩

theorem isLegible_of_isClosed (h : l.isClosed = true) : l.IsLegible := by
  simp only [isClosed, Bool.and_eq_true, Bool.or_eq_true, decide_eq_true_eq] at h
  exact h.1.elim (fun same => ⟨_, same⟩) fun same => ⟨_, same⟩

theorem isClosed_of_isOpen (h : l.isOpen = true) : l.isClosed = false := by
  simp only [isOpen, Bool.and_eq_true, Bool.not_eq_true'] at h
  rw [isClosed, h.2, Bool.and_false]

end DeliveryLine

namespace Delivery

theorem isClosed_delivered (d : Delivery) (status : Int) (now : Instant) :
    (d.delivered status now).line.isClosed = true := rfl

theorem isClosed_givenUp (d : Delivery) (now : Instant) :
    (d.givenUp now).line.isClosed = true := rfl

end Delivery

/-! ## Crashes -/

/-- Whether an entry tells of a delivery that crashed. -/
def LogEntry.isCrash (entry : LogEntry) : Bool := entry.message = "Webhook delivery task crashed"

theorem Deliver.isCrash_retrying (d : Delivery) : (retrying d).isCrash = false := rfl

/-- How many crashes the engine has told of. -/
def World.crashes (w : World) : Nat := w.logs.countP LogEntry.isCrash

/-- A response whose status has room in a column, a failure of the transport or a refusal. -/
def Exchange.IsOrdinary : Exchange → Prop
  | answered status => Column.whole status = .ok status
  | crashed .. => False
  | _ => True

/-- Nothing makes a delivery crash that lies in the world: the client is open and raises only what
is an outcome of a request, and saves do not fail. -/
structure World.IsCalm (w : World) : Prop where
  client : w.clientClosed = false
  spared : w.Spares "store.save_webhook_delivery"
  ordinary : ∀ entry ∈ w.script, ∀ x ∈ entry.2, x.IsOrdinary

/-- Nothing makes a delivery crash that lies in the settings: there is a pause after every attempt
but the last, and the attempts can be counted. -/
structure Settings.Paces (s : Settings) : Prop where
  paused : ∀ attempt : Nat, 1 ≤ attempt → attempt ≤ s.webhookMaxRetries →
    ∃ delay, s.pauseAfter attempt = .ok delay
  counted : s.webhookMaxRetries < Column.greatest

/-! ### What leaves the client and the log alone -/

/-- Requests that the script of the client is read for, or that write to the log of the engine. -/
def Request.isTelling : Request → Bool
  | endExchange _ | log _ => true
  | _ => false

namespace World

/-- The client, its script and the log of the engine. -/
def client (w : World) : Bool × List (String × List Exchange) × List LogEntry :=
  (w.clientClosed, w.script, w.logs)

theorem answer_client (w : World) {r : Request} (silent : r.isTelling = false) :
    (w.answer r).2.client = w.client := by
  cases inner : r.isOuter with
  | false =>
      refine w.answer_outer client inner ?_ fun _ => rfl
      intro v v' same
      exact congrArg (fun outer => (outer.2.1, outer.2.2.1, outer.2.2.2.1)) same
  | true =>
      cases r with
      | createTask | createActivity | logEmail | upsertTag =>
          rcases w.answer_cases _ with ⟨_, h⟩ | ⟨e, faults, h⟩ | ⟨faults, h⟩ <;> rw [h] <;> rfl
      | endExchange | log => cases silent
      | _ => cases inner

/-- What an exchange takes from the script was in it, and so was what it leaves. -/
theorem mem_nextExchange {url : String} {script : List (String × List Exchange)}
    {P : Exchange → Prop} (all : ∀ entry ∈ script, ∀ x ∈ entry.2, P x)
    (fine : P (.answered 200)) :
    P (nextExchange url script).1 ∧
      ∀ entry ∈ (nextExchange url script).2, ∀ x ∈ entry.2, P x := by
  have listed {xs : List Exchange} (found : script.lookup url = some xs) : ∀ x ∈ xs, P x := by
    obtain ⟨before, after, rfl, _⟩ := List.lookup_eq_some_iff.mp found
    exact all (url, xs) (by simp)
  unfold nextExchange
  split
  · rename_i x y rest found
    refine ⟨listed found x List.mem_cons_self, ?_⟩
    intro entry there
    rcases Keyed.mem_put there with rfl | there
    · exact fun x hx => listed found x (List.mem_cons_of_mem _ hx)
    · exact all entry there
  · rename_i x found
    exact ⟨listed found x List.mem_cons_self, all⟩
  · exact ⟨fine, all⟩

/-- The engine forgets no crash that it has told of. -/
theorem crashes_answer (w : World) (r : Request) : w.crashes ≤ (w.answer r).2.crashes := by
  cases silent : r.isTelling with
  | false =>
      refine Nat.le_of_eq (congrArg (List.countP LogEntry.isCrash) ?_)
      exact congrArg (fun client => client.2.2) (w.answer_client silent).symm
  | true =>
      cases r with
      | endExchange url => exact Nat.le_refl _
      | log entry =>
          rw [answer_log, crashes, crashes, List.countP_append]
          exact Nat.le_add_right _ _
      | _ => cases silent

theorem IsCalm.answer {w : World} (h : w.IsCalm) (r : Request) : (w.answer r).2.IsCalm := by
  have spared := h.spared.answer r
  cases silent : r.isTelling with
  | false =>
      have same := w.answer_client silent
      refine ⟨(congrArg Prod.fst same).trans h.client, spared, ?_⟩
      rw [show (w.answer r).2.script = w.script from congrArg (fun client => client.2.1) same]
      exact h.ordinary
  | true =>
      cases r with
      | endExchange url => exact ⟨h.client, spared, (mem_nextExchange h.ordinary rfl).2⟩
      | log entry => exact ⟨h.client, spared, h.ordinary⟩
      | _ => cases silent

end World

/-! ## What is borne -/

/-- What a piece of work bears. -/
inductive Burden where
  | idle
  /-- A delivery that has been opened and is yet to be started. -/
  | owing (d : Delivery)
  /-- A delivery that is under way. -/
  | carrying (d : Delivery)
  /-- A delivery whose end has been told and is yet to be saved. -/
  | closing (d : Delivery)
  | closed
  /-- A delivery whose task crashed. -/
  | dropped (id : RecordId)

namespace Burden

/-- Whether the work is one that submits deliveries, rather than one that makes one. -/
def isSender : Burden → Bool
  | idle | owing _ => true
  | _ => false

/-- The delivery that a piece of work answers for. -/
def owes? : Burden → Option RecordId
  | owing d | carrying d | closing d => some d.id
  | dropped id => some id
  | _ => none

/-- The delivery that a piece of work has dropped. -/
def dropped? : Burden → Option RecordId
  | dropped id => some id
  | _ => none

/-- Where work may end; in calm nothing is dropped. -/
def ends (calm : Prop) : Burden → Prop
  | idle | closed => True
  | dropped _ => ¬ calm
  | _ => False

/-- Runs submit deliveries, and other work makes them. -/
def suits (p : Burden) (work : Background) : Prop := p.isSender = work.isRun

end Burden

/-! ## The code -/

namespace Posting

/-- What may be asked under a burden. -/
def may (calm : Prop) : Burden → Request → Prop
  | .idle, r => r.isPostal = false ∨ ∃ d, r = .openDelivery d ∧ d.line.isOpen = true ∧ d.Fits
  | .owing d, r => ∃ job, r = .start (.delivery job) ∧ job.delivery = d
  | .carrying d, r => r.isPostal = false ∨ r = .saveDelivery d ∨
      ∃ d', r = .publishDelivery d' ∧ d'.id = d.id ∧
        (d'.line.isOpen = true ∨ d'.line.isClosed = true) ∧ (calm → d'.Fits)
  | .closing d, r => r.isPostal = false ∨ r = .saveDelivery d
  | .closed, r => r.isPostal = false
  | .dropped _, _ => False

/-- The requests that nothing makes fail. -/
def sure : Request → Bool
  | .now | .log _ | .start _ | .publishDelivery _ | .endExchange _ | .pause .. | .giveWay => true
  | _ => false

/-- The requests of a delivery that nothing makes fail in calm. -/
def assured : Request → Bool
  | .saveDelivery _ | .beginExchange .. => true
  | _ => false

/-- The answers to reckon with: what is sure does not fail, and in calm neither does what a
delivery asks for, and the client raises only what is an outcome of a request. -/
def expects (calm : Prop) : (r : Request) → Except Failure r.Answer → Prop
  | r, .error _ => sure r = false ∧ (calm → assured r = false)
  | .endExchange _, .ok x => calm → x.IsOrdinary
  | _, .ok _ => True

/-- The burden after an answer. -/
def next : Burden → (r : Request) → Except Failure r.Answer → Burden
  | .idle, .openDelivery _, .ok d => .owing d
  | .owing _, .start (.delivery _), _ => .idle
  | .carrying _, .publishDelivery d, _ => if d.line.isClosed then .closing d else .carrying d
  | .carrying d, .log entry, _ => if entry.isCrash then .dropped d.id else .carrying d
  | .closing d, .log entry, _ => if entry.isCrash then .dropped d.id else .closing d
  | .closing _, .saveDelivery _, .ok _ => .closed
  | p, _, _ => p

end Posting

/-- The code by which deliveries are submitted and made. -/
def posting (calm : Prop) : Conduct Burden where
  may := Posting.may calm
  expects := Posting.expects calm
  next := Posting.next

namespace Posting

open Prog (ask leads_bind leads_ask leads_ask_bind leads_stay_bind leads_attempt leads_map
  leads_ofExcept)

variable {calm : Prop}

theorem next_idle {r : Request} (plain : r.isPostal = false) (x : Except Failure r.Answer) :
    next .idle r x = .idle := by
  cases r <;> first | rfl | cases plain

theorem isSender_next (p : Burden) (r : Request) (x : Except Failure r.Answer) :
    (next p r x).isSender = p.isSender := by
  unfold next
  split <;> first | rfl | split <;> rfl

/-! ### Work that submits deliveries -/

/-- A program that submits deliveries, and starts each one before it goes on. -/
def Posts {α : Type} (calm : Prop) (m : Prog α) : Prop :=
  m.Leads (posting calm) (fun _ p => p = .idle) .idle

section

variable {α β : Type}

theorem posts_bind {m : Prog α} {rest : α → Prog β} (h : Posts calm m)
    (hrest : ∀ a, Posts calm (rest a)) : Posts calm (m >>= rest) := by
  refine leads_bind (h.mono ?_)
  rintro x p rfl
  cases x with
  | ok a => exact hrest a
  | error f => rfl

theorem posts_attempt {m : Prog α} (h : Posts calm m) : Posts calm m.attempt := leads_attempt h

theorem posts_of_only {m : Prog α} (h : m.Only fun r => r.isPostal = false) : Posts calm m :=
  h.leads (fun _ plain => ⟨.inl plain, next_idle plain⟩) fun _ => rfl

theorem posts_ask {r : Request} (plain : r.isPostal = false) : Posts calm (ask r) :=
  posts_of_only (Prog.only_ask plain)

theorem posts_pure (a : α) : Posts calm (pure a : Prog α) := rfl

theorem posts_map {m : Prog α} (f : α → β) (h : Posts calm m) : Posts calm (f <$> m) := by
  rw [map_eq_pure_bind]
  exact posts_bind h fun a => posts_pure (f a)

end

/-- What is submitted is opened and started. -/
theorem posts_submit {d : Delivery} (headers : List (String × String)) (content : String)
    (pending : d.line.isOpen = true) (fits : d.Fits) :
    Posts calm (Runner.submit d headers content) := by
  refine posts_bind (posts_ask rfl) fun now => ?_
  refine leads_ask_bind (.inr ⟨_, rfl, pending, ⟨fits.attempts, fits.responseStatus⟩⟩) ?_ ?_
  · intro f _
    rfl
  · intro opened _
    refine leads_ask_bind ⟨_, rfl, rfl⟩ ?_ ?_
    · intro f unsure
      cases unsure.1
    · intro _ _
      rfl

theorem isPostal_of_isRoutine {r : Request} (routine : r.isRoutine = true) :
    r.isPostal = false := by
  cases r <;> first | rfl | cases routine

theorem posts_of_isRoutine {α : Type} {m : Prog α} (h : m.IsRoutine) : Posts calm m :=
  posts_of_only (h.only.mono fun _ => isPostal_of_isRoutine)

theorem posts_perform (site : Runner.Site) (action : Action) (kind : ActionKind)
    (config : ActionConfig) : Posts calm (Runner.perform site action kind config) := by
  cases config with
  | email c => exact posts_map _ (posts_of_only (Runner.passes_sendEmail site c fun _ => rfl).only)
  | task c =>
      exact posts_map _ (posts_of_only
        (Prog.Passes.only (Runner.passes_createTask site c rfl fun _ => rfl)))
  | field c => exact posts_map _ (posts_bind (posts_ask rfl) fun _ => posts_pure _)
  | webhook c =>
      refine posts_map _ (posts_bind (posts_of_only (Runner.passes_requestContent site c).only) ?_)
      exact fun content => posts_bind (posts_submit _ _ rfl ⟨rfl, rfl⟩) fun _ => posts_pure _
  | owner c => exact posts_map _ (posts_of_isRoutine (Runner.isRoutine_assignOwner site c))
  | tag c =>
      refine posts_map _ ?_
      split
      · exact posts_of_isRoutine (Runner.isRoutine_addTag site c)
      · exact posts_of_isRoutine (Runner.isRoutine_removeTag site c)
  | activity c =>
      exact posts_map _ (posts_of_only (Runner.passes_createActivity site c fun _ => rfl).only)
  | delay c => exact posts_pure _
  | branch c => exact posts_map _ (posts_of_only (Runner.passes_decideBranch site c).only)

theorem posts_execute (site : Runner.Site) (action : Action) :
    Posts calm (Runner.execute site action) := by
  refine posts_bind (posts_ask rfl) fun _ => ?_
  cases action.kind with
  | foreign word => exact posts_bind (posts_ask rfl) fun _ => posts_pure _
  | known kind =>
      refine posts_bind (posts_attempt (posts_bind (posts_of_only (Prog.only_ofExcept _))
        fun config => posts_perform site action kind config)) fun ended => ?_
      cases ended with
      | ok x => exact posts_pure _
      | error f => exact posts_bind (posts_ask rfl) fun _ => posts_pure _

theorem posts_runActions (site : Runner.Site) (actions : List Action) (e : Execution) :
    Posts calm (Run.runActions site actions e) := by
  induction actions generalizing e with
  | nil => exact posts_pure _
  | cons a actions ih =>
      refine posts_bind (posts_attempt (posts_execute site a)) fun ended => ?_
      cases ended with
      | error f => exact posts_pure _
      | ok o =>
          show Posts calm (if o.status = .failed then _ else _)
          split
          · exact posts_pure _
          · exact posts_bind (posts_ask rfl) fun _ => ih _

theorem posts_finish (workflowId : Uid) (e : Execution) : Posts calm (Run.finish workflowId e) := by
  refine posts_bind (posts_ask rfl) fun _ => posts_bind (posts_ask rfl) fun _ => ?_
  refine posts_bind (posts_ask rfl) fun _ => posts_bind (posts_ask rfl) fun _ => ?_
  exact posts_bind (posts_ask rfl) fun _ => posts_pure _

theorem posts_abort (workflowId : Uid) (e : Execution) (f : Failure) :
    Posts calm (Run.abort workflowId e f) := by
  refine posts_bind (posts_ask rfl) fun _ => posts_bind (posts_ask rfl) fun now => ?_
  refine posts_bind (posts_ask rfl) fun _ => posts_bind (posts_ask rfl) fun _ => ?_
  exact posts_bind (posts_ask rfl) fun _ => posts_of_only trivial

theorem posts_run (settings : Settings) (workflow : Workflow) (trigger : Open TriggerKind)
    (context : Context) (triggeredBy : Option String) :
    Posts calm (Run.run settings workflow trigger context triggeredBy) := by
  refine posts_bind (posts_ask rfl) fun now => posts_bind (posts_ask rfl) fun e => ?_
  refine posts_bind (posts_ask rfl) fun _ => posts_bind (posts_runActions _ _ _) fun progress => ?_
  cases progress with
  | through e => exact posts_bind (posts_ask rfl) fun _ => posts_finish _ _
  | stopped e error => exact posts_bind (posts_ask rfl) fun _ => posts_finish _ _
  | raised e f => exact posts_abort _ _ _

theorem posts_runById (settings : Settings) (id : Uid) (trigger : Open TriggerKind)
    (context : Context) (triggeredBy : Option String) :
    Posts calm (Run.runById settings id trigger context triggeredBy) := by
  refine posts_bind (posts_ask rfl) fun workflow => ?_
  cases workflow with
  | none => exact posts_of_only trivial
  | some workflow => exact posts_bind (posts_run _ _ _ _ _) fun _ => posts_pure _

theorem posts_background (settings : Settings) (q : QueuedRun) :
    Posts calm (Dispatch.background settings q) := by
  refine posts_bind (posts_attempt (posts_run _ _ _ _ _)) fun ended => ?_
  cases ended with
  | ok e => exact posts_ask rfl
  | error f => exact posts_bind (posts_ask rfl) fun _ => posts_ask rfl

theorem isPostal_of_isMatching {r : Request} (matching : r.isMatching = true) :
    r.isPostal = false := by
  cases r with
  | start work =>
      cases work with
      | run q => rfl
      | delivery job => cases matching
  | _ => first | rfl | cases matching

theorem posts_call (settings : Settings) (call : Call) : Posts calm (call.program settings) := by
  cases call with
  | dispatch kind context =>
      exact posts_map _ (posts_of_only ((Keeping.matches_dispatch kind context).mono fun _ =>
        isPostal_of_isMatching))
  | run id trigger context triggeredBy => exact posts_map _ (posts_runById _ _ _ _ _)

/-! ### Work that makes a delivery -/

/-- How a delivery may end: with its end saved, or with a failure under which it is still borne;
but not so in calm. -/
def Ends (calm : Prop) : Except Failure Unit → Burden → Prop
  | .ok _, p => p = .closed
  | .error _, p => ¬ calm ∧ ∃ d, p = .carrying d ∨ p = .closing d

/-- What leaves the log alone leaves the burden as it was. -/
theorem next_of_plain {p : Burden} {r : Request} (plain : r.isPostal = false)
    (quiet : ∀ entry, r = .log entry → entry.isCrash = false) (x : Except Failure r.Answer) :
    next p r x = p := by
  cases r with
  | log entry => cases p <;> simp [next, quiet entry rfl]
  | openDelivery | publishDelivery | saveDelivery | fileDelivery => cases plain
  | start work =>
      cases work with
      | run q => cases p <;> rfl
      | delivery job => cases plain
  | _ => cases p <;> rfl

section

variable {α : Type} {wanted : Except Failure α → Burden → Prop} {d d' : Delivery} {r : Request}
  {rest : r.Answer → Prog α}

/-- Under a delivery that is carried, what leaves the log alone may fail, and else the rest goes on
under the same burden. -/
theorem leads_amid_bind (plain : r.isPostal = false)
    (quiet : ∀ entry, r = .log entry → entry.isCrash = false)
    (fails : ∀ f, expects calm r (.error f) → wanted (.error f) (.carrying d))
    (goesOn : ∀ a, expects calm r (.ok a) → (rest a).Leads (posting calm) wanted (.carrying d)) :
    (ask r >>= rest).Leads (posting calm) wanted (.carrying d) :=
  leads_stay_bind (.inl plain) (next_of_plain plain quiet) fails goesOn

/-- What is told of a delivery that goes on is carried on. -/
theorem leads_show {rest : Unit → Prog α} (id : d'.id = d.id) (going : d'.line.isOpen = true)
    (fits : calm → d'.Fits)
    (goesOn : (rest ()).Leads (posting calm) wanted (.carrying d')) :
    (ask (.publishDelivery d') >>= rest).Leads (posting calm) wanted (.carrying d) := by
  have onward (x : Except Failure Unit) :
      (posting calm).next (.carrying d) (.publishDelivery d') x = .carrying d' := by
    simp only [posting, next, DeliveryLine.isClosed_of_isOpen going, Bool.false_eq_true, if_false]
  refine leads_ask_bind (.inr (.inr ⟨d', rfl, id, .inl going, fits⟩)) ?_ ?_
  · intro f unsure
    cases unsure.1
  · intro _ _
    rw [onward]
    exact goesOn

end

variable {d d' : Delivery}

/-- A delivery whose end is told, saved and logged has ended. -/
theorem leads_end (entry : LogEntry) (id : d'.id = d.id) (closed : d'.line.isClosed = true)
    (fits : calm → d'.Fits) :
    Prog.Leads (posting calm) (Ends calm) (.carrying d) (do
      ask (.publishDelivery d')
      let _ ← ask (.saveDelivery d')
      ask (.log entry)) := by
  have told (x : Except Failure Unit) :
      (posting calm).next (.carrying d) (.publishDelivery d') x = .closing d' := by
    simp only [posting, next, closed, if_true]
  refine leads_ask_bind (.inr (.inr ⟨d', rfl, id, .inr closed, fits⟩)) ?_ ?_
  · intro f unsure
    cases unsure.1
  · intro _ _
    rw [told]
    refine leads_ask_bind (.inr rfl) ?_ ?_
    · intro f unsure
      refine ⟨fun still => ?_, d', .inr rfl⟩
      cases unsure.2 still
    · intro _ _
      refine leads_ask rfl ?_
      intro x expected
      cases x with
      | ok _ => rfl
      | error f => cases expected.1

theorem leads_giveUp (d₀ : Delivery) (id : d.id = d₀.id) (fits : calm → d.Fits) :
    (Deliver.giveUp d).Leads (posting calm) (Ends calm) (.carrying d₀) := by
  refine leads_amid_bind rfl nofun (fun f unsure => nomatch unsure.1) fun now _ => ?_
  exact leads_end _ id (d.isClosed_givenUp now) fun still => ⟨(fits still).1, (fits still).2⟩

theorem leads_arrive (d₀ : Delivery) (status : Int) (id : d.id = d₀.id)
    (fits : calm → d.Fits ∧ Column.whole status = .ok status) :
    (Deliver.arrive d status).Leads (posting calm) (Ends calm) (.carrying d₀) := by
  refine leads_amid_bind rfl nofun (fun f unsure => nomatch unsure.1) fun now _ => ?_
  refine leads_end _ id (d.isClosed_delivered status now) fun still => ⟨(fits still).1.1, ?_⟩
  show Column.whole? (some status) = _
  rw [Column.whole?, (fits still).2]
  rfl

/-- How a first part may end that leaves the delivery carried: in calm it does not fail. -/
def Carries (calm : Prop) {α : Type} (right : α → Prop) (d : Delivery) :
    Except Failure α → Burden → Prop
  | .ok a, p => p = .carrying d ∧ right a
  | .error _, p => p = .carrying d ∧ ¬ calm

theorem leads_exchange (job : QueuedDelivery) (d : Delivery) :
    (Deliver.exchange job d).Leads (posting calm) (Carries calm (calm → ·.IsOrdinary) d)
      (.carrying d) := by
  refine leads_amid_bind rfl nofun ?_ ?_
  · intro f unsure
    refine ⟨rfl, fun still => ?_⟩
    cases unsure.2 still
  · intro _ _
    refine leads_ask (.inl rfl) ?_
    intro x expected
    cases x with
    | ok x => exact ⟨rfl, expected⟩
    | error f => cases expected.1

theorem leads_waitForNext {settings : Settings} {attempt : Nat} (d₀ : Delivery) (id : d.id = d₀.id)
    (going : d.line.isOpen = true) (fits : calm → d.Fits)
    (paused : calm → ∃ delay, settings.pauseAfter attempt = .ok delay) :
    (Deliver.waitForNext settings d attempt).Leads (posting calm) (Carries calm (fun _ => True) d)
      (.carrying d₀) := by
  refine leads_amid_bind rfl ?_ (fun f unsure => nomatch unsure.1) fun _ _ => ?_
  · intro entry same
    obtain rfl := Request.log.inj same
    exact Deliver.isCrash_retrying d
  · refine leads_show id going fits ?_
    refine leads_ask_bind (.inr (.inl rfl)) ?_ ?_
    · intro f unsure
      refine ⟨rfl, fun still => ?_⟩
      cases unsure.2 still
    · intro _ _
      cases paced : settings.pauseAfter attempt with
      | error f =>
          refine ⟨rfl, fun still => ?_⟩
          obtain ⟨delay, pause⟩ := paused still
          cases paced.symm.trans pause
      | ok delay =>
          refine leads_ask (.inl rfl) ?_
          intro x expected
          cases x with
          | ok _ => exact ⟨rfl, trivial⟩
          | error f => cases expected.1

theorem trace_ok {outcome : Exchange} (h : Deliver.trace d outcome = .ok d') :
    d'.line = d.line ∧ (d.Fits → outcome.IsOrdinary → d'.Fits) := by
  cases outcome with
  | answered status =>
      obtain rfl := Except.ok.inj h
      refine ⟨rfl, fun fits ordinary => ⟨fits.attempts, ?_⟩⟩
      show Column.whole? (some status) = _
      rw [Column.whole?, show Column.whole status = _ from ordinary]
      rfl
  | broken name said | refused name said =>
      obtain rfl := Except.ok.inj h
      exact ⟨rfl, fun fits _ => ⟨fits.attempts, rfl⟩⟩
  | crashed name said => cases h

theorem trace_error {outcome : Exchange} {f : Failure} (h : Deliver.trace d outcome = .error f) :
    ¬ outcome.IsOrdinary := by
  cases outcome with
  | crashed name said => exact id
  | _ => cases h

theorem eq_answered_of_delivering {outcome : Exchange} {status : Int}
    (h : Deliver.delivering? outcome = some status) : outcome = .answered status := by
  cases outcome with
  | answered s =>
      simp only [Deliver.delivering?] at h
      split at h
      · cases h
      · rw [Option.some.inj h]
  | _ => cases h

/-- The attempts keep to the code, and in calm they come to an end that is saved. -/
theorem leads_attempts {settings : Settings} (paces : calm → settings.Paces)
    (job : QueuedDelivery) {attempt left : Nat} (first : 1 ≤ attempt)
    (budget : attempt + left = (settings.webhookMaxRetries + 1).toNat + 1) (d₀ : Delivery)
    (id : d.id = d₀.id) (going : d.line.isOpen = true) (fits : calm → d.Fits) :
    (Deliver.attempts settings job d attempt left).Leads (posting calm) (Ends calm)
      (.carrying d₀) := by
  induction left generalizing d d₀ attempt with
  | zero => exact leads_giveUp d₀ id fits
  | succ left ih =>
      have counted (still : calm) : (d.attempting attempt).Fits := by
        refine ⟨Column.whole_eq_ok.mpr ?_, (fits still).responseStatus⟩
        have := (paces still).counted
        simp only [Delivery.attempting, Column.least, Column.greatest] at this ⊢
        omega
      refine leads_show id going counted ?_
      refine leads_bind ((leads_exchange job _).mono ?_)
      rintro x p h
      cases x with
      | error f => exact ⟨h.2, _, .inl h.1⟩
      | ok outcome =>
          obtain ⟨rfl, ordinary⟩ := h
          cases delivers : Deliver.delivering? outcome with
          | some status =>
            simp only [Prog.Onward, delivers]
            obtain rfl := eq_answered_of_delivering delivers
            exact leads_arrive _ status rfl fun still => ⟨counted still, ordinary still⟩
          | none =>
            simp only [Prog.Onward, delivers]
            cases traced : Deliver.trace (d.attempting attempt) outcome with
            | error f =>
                refine ⟨fun still => trace_error traced (ordinary still), _, .inl rfl⟩
            | ok d' =>
                obtain ⟨line, fit⟩ := trace_ok traced
                have same : d'.id = (d.attempting attempt).id := congrArg DeliveryLine.id line
                have fits' (still : calm) : d'.Fits := fit (counted still) (ordinary still)
                show Prog.Leads _ _ _ (if outcome.isRetryable && left != 0 then _ else _)
                split
                · rename_i again
                  have more : left ≠ 0 := by simpa using (Bool.and_eq_true_iff.mp again).2
                  have paused (still : calm) :
                      ∃ delay, settings.pauseAfter attempt = .ok delay :=
                    (paces still).paused attempt first (by omega)
                  refine leads_bind ((leads_waitForNext _ same (line ▸ going) fits' paused).mono ?_)
                  rintro x p h
                  cases x with
                  | error f => exact ⟨h.2, _, .inl h.1⟩
                  | ok _ =>
                      obtain ⟨rfl, _⟩ := h
                      exact ih (by omega) (by omega) d' rfl (line ▸ going) fits'
                · exact leads_giveUp _ same fits'

/-- A delivery that has failed is dropped, and that is told. -/
theorem leads_crash {p : Burden} (borne : p = .carrying d ∨ p = .closing d) (rough : ¬ calm)
    (f : Failure) :
    Prog.Leads (posting calm) (fun _ => Burden.ends calm) p (do
      ask .giveWay
      ask (.log (Deliver.crashed f))) := by
  rcases borne with rfl | rfl
  · refine leads_ask_bind (.inl rfl) (fun _ unsure => nomatch unsure.1) fun _ _ => ?_
    exact leads_ask (.inl rfl) fun _ _ => rough
  · refine leads_ask_bind (.inl rfl) (fun _ unsure => nomatch unsure.1) fun _ _ => ?_
    exact leads_ask (.inl rfl) fun _ _ => rough

/-- A delivery keeps to the code; it ends saved, or dropped with a crash that is told. -/
theorem leads_deliver {settings : Settings} (paces : calm → settings.Paces) (job : QueuedDelivery)
    (going : job.delivery.line.isOpen = true) (fits : job.delivery.Fits) :
    (Deliver.background settings job).Leads (posting calm) (fun _ => Burden.ends calm)
      (.carrying job.delivery) := by
  refine leads_bind (leads_attempt ((leads_attempts paces job (Nat.le_refl 1) (Nat.add_comm ..) _
    rfl going fun _ => fits).mono ?_))
  rintro x p h
  cases x with
  | ok _ =>
      obtain rfl := h
      trivial
  | error f =>
      obtain ⟨rough, d, borne⟩ := h
      exact leads_crash borne rough f

/-- The burden under which work in the background begins. -/
def begins : Background → Burden
  | .run _ => .idle
  | .delivery job => .carrying job.delivery

theorem suits_begins (work : Background) : (begins work).suits work := by
  cases work <;> rfl

/-- All work in the background keeps to the code, and a delivery that has not ended is made. -/
theorem leads_work {settings : Settings} (paces : calm → settings.Paces) (work : Background)
    (fresh : ∀ d, work.delivery? = some d → d.line.isOpen = true ∧ d.Fits) :
    (work.program settings).Leads (posting calm) (fun _ => Burden.ends calm) (begins work) := by
  cases work with
  | run q =>
      refine (posts_background settings q).mono ?_
      rintro x p rfl
      trivial
  | delivery job =>
      obtain ⟨going, fits⟩ := fresh job.delivery rfl
      exact leads_deliver paces job going fits

end Posting

end RecordFlow
