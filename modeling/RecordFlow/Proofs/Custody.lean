/-
# Custody — who claims a key and who gives it back

A dispatch claims a key for a run that it starts, and the run gives the key
back when it ends.  But so does every run: one whose workflow was not to be run
once when it was started has claimed nothing, and ends by giving back a key all
the same.  This is put as a code of conduct in which a run knows whether it was
started under a claim, and the engine keeps to it: `leads_dispatch` and
`leads_program`.

What follows for a key is told by `Kept`: how many there are that keep it, set
against how often it was given back by a run that had no claim on it.
-/
import RecordFlow.Assembly
import RecordFlow.Proofs.RunOnce

namespace RecordFlow

/-! ## Requests that leave the keys alone -/

/-- Requests of the engine that neither claim a key, nor give one back, nor start a run. -/
def Request.isKeyless : Request → Bool
  | openExecution _ | publishExecution _ | finishExecution _ => true
  | r => r.isAside

theorem Request.isKeyless_of_isAside {r : Request} (h : r.isAside = true) :
    r.isKeyless = true := by
  cases r <;> first | exact h | rfl

/-- What may happen to a world meanwhile, as far as keys are concerned: those that are claimed,
and the runs that wait, are the same. -/
structure World.AmidKeys (w w' : World) : Prop where
  claimed : w'.claimed = w.claimed
  waiting : w'.waiting = w.waiting

theorem World.SameBook.amidKeys {w w' : World} (h : w.SameBook w') : w.AmidKeys w' :=
  ⟨h.claimed, h.waiting⟩

theorem World.amidKeys_of_isKeyless (w : World) {r : Request} (keyless : r.isKeyless = true) :
    w.AmidKeys (w.answer r).2 := by
  by_cases aside : r.isAside = true
  · exact (w.aside_answer aside).sameBook.amidKeys
  · cases r with
    | openExecution e => exact (w.sameBook_openExecution e).amidKeys
    | publishExecution e => exact (w.sameBook_publishExecution e).amidKeys
    | finishExecution e => exact (w.sameBook_finishExecution e).amidKeys
    | _ => exact absurd keyless aside

/-! ## What a run asks for -/

/-- What a run may ask: to write its entry, and what neither waits nor lets the others go on. -/
def Request.isBrisk : Request → Bool
  | openExecution _ | publishExecution _ | finishExecution _ => true
  | r => r.isPrompt

theorem Request.isBrisk_of_isPrompt {r : Request} (h : r.isPrompt = true) : r.isBrisk = true := by
  cases r <;> first | exact h | rfl

theorem Request.isKeyless_of_isBrisk {r : Request} (h : r.isBrisk = true) :
    r.isKeyless = true := by
  cases r <;> first | rfl | exact isKeyless_of_isAside (isAside_of_isPrompt h)

namespace Run

open Prog (ask only_bind only_ask only_attempt only_pure)

theorem brisk_runActions (site : Runner.Site) (actions : List Action) (e : Execution) :
    (runActions site actions e).Only fun r => r.isBrisk = true := by
  induction actions generalizing e with
  | nil => trivial
  | cons a actions ih =>
      have tried : (Runner.execute site a).attempt.Only fun r => r.isBrisk = true :=
        only_attempt ((Runner.isPrompt_execute site a).mono fun _ => Request.isBrisk_of_isPrompt)
      refine only_bind tried fun x => ?_
      cases x with
      | error f => trivial
      | ok outcome =>
          show Prog.Only _ (if outcome.status = .failed then _ else _)
          split
          · trivial
          · exact only_bind (only_ask rfl) fun _ => ih _

theorem brisk_finish (workflowId : Uid) (e : Execution) :
    (finish workflowId e).Only fun r => r.isBrisk = true := by
  refine only_bind (only_ask rfl) fun _ => only_bind (only_ask rfl) fun _ => ?_
  refine only_bind (only_ask rfl) fun _ => only_bind (only_ask rfl) fun _ => ?_
  exact only_bind (only_ask rfl) fun _ => only_pure e

theorem brisk_abort (workflowId : Uid) (e : Execution) (f : Failure) :
    (abort workflowId e f).Only fun r => r.isBrisk = true := by
  refine only_bind (only_ask rfl) fun _ => only_bind (only_ask rfl) fun now => ?_
  refine only_bind (only_ask rfl) fun _ => only_bind (only_ask rfl) fun _ => ?_
  exact only_bind (only_ask rfl) fun _ => trivial

/-- A run itself has nothing to do with keys or with the client; it is what is around it that gives
a key back. -/
theorem brisk_run (settings : Settings) (workflow : Workflow) (trigger : Open TriggerKind)
    (context : Context) (triggeredBy : Option String) :
    (run settings workflow trigger context triggeredBy).Only fun r => r.isBrisk = true := by
  refine only_bind (only_ask rfl) fun now => only_bind (only_ask rfl) fun e => ?_
  refine only_bind (only_ask rfl) fun _ => only_bind (brisk_runActions _ _ _) fun progress => ?_
  cases progress with
  | raised e f => exact brisk_abort _ _ _
  | stopped e error => exact only_bind (only_ask rfl) fun now => brisk_finish _ _
  | through e => exact only_bind (only_ask rfl) fun now => brisk_finish _ _

theorem brisk_runById (settings : Settings) (id : Uid) (trigger : Open TriggerKind)
    (context : Context) (triggeredBy : Option String) :
    (runById settings id trigger context triggeredBy).Only fun r => r.isBrisk = true := by
  refine only_bind (only_ask rfl) fun workflow => ?_
  cases workflow with
  | none => trivial
  | some workflow => exact only_bind (brisk_run _ _ _ _ _) fun e => only_pure e.id

end Run

/-! ## Runs of a key -/

/-- Whether a run was started under a claim, that is, for a workflow that is run once.  It is told
by the definition that the run holds, which no other that is registered later takes the place of. -/
def QueuedRun.isOnce (q : QueuedRun) : Bool := q.workflow.record.runOnce

/-- Whether a run is of a key and was started under a claim, or without one. -/
def QueuedRun.isOf (once : Bool) (k : RunKey) (q : QueuedRun) : Bool := q.isOnce = once && q.key = k

/-- Whether work is a run of a key that was started under a claim, or without one. -/
def Background.isOf (once : Bool) (k : RunKey) : Background → Bool
  | run q => q.isOf once k
  | delivery _ => false

/-! ## The code of conduct -/

/-- Where a piece of the engine's work is with a key. -/
inductive Custody where
  /-- A dispatch has no key. -/
  | free
  /-- A key is claimed, and the ledger has not been looked at. -/
  | claiming (key : RunKey)
  /-- A key is claimed, and the ledger has shown no completed run. -/
  | cleared (key : RunKey)
  /-- A run is under way, which was started under a claim or without one. -/
  | running (key : RunKey) (once : Bool)
  /-- A run has given its key back. -/
  | ended (key : RunKey) (once : Bool)
  /-- Work of another kind. -/
  | aside

namespace Custody

/-- Whether a key is held in a phase; a run that was started without a claim holds none. -/
def holds (k : RunKey) : Custody → Bool
  | claiming key | cleared key => key = k
  | running key once => once && key = k
  | free | ended .. | aside => false

/-- Whether work may end in a phase. -/
def isEnd : Custody → Prop
  | free | ended .. | aside => True
  | _ => False

/-- The phases of a dispatch. -/
def IsDispatching : Custody → Prop
  | free | claiming _ | cleared _ => True
  | _ => False

/-- The phases that suit work in the background. -/
def suits : Custody → Background → Prop
  | running key once, .run q | ended key once, .run q => q.key = key ∧ q.isOnce = once
  | aside, .delivery _ => True
  | _, _ => False

/-- What may be asked in a phase. -/
def may : Custody → Request → Prop
  | free, r => r.isKeyless = true ∨ (∃ key, r = .claim key) ∨
      ∃ q, r = .start (.run q) ∧ q.isOnce = false
  | claiming key, r => r = .hasCompleted key ∨ r = .release key
  | cleared key, r => ∃ q, r = .start (.run q) ∧ q.isOnce = true ∧ q.key = key
  | running key _, r => r.isKeyless = true ∨ r = .release key
  | ended .., _ => False
  | aside, r => r.isKeyless = true

/-- The answers to reckon with: the log takes what it is told. -/
def expects : (r : Request) → Except Failure r.Answer → Prop
  | .log _, .error _ => False
  | _, _ => True

/-- The phase after an answer. -/
def next : Custody → (r : Request) → Except Failure r.Answer → Custody
  | free, .claim key, .ok true => claiming key
  | claiming key, .hasCompleted _, .ok false => cleared key
  | claiming _, .release _, _ => free
  | cleared _, .start _, _ => free
  | running key once, .release _, _ => ended key once
  | p, _, _ => p

end Custody

/-- The code by which keys are kept. -/
def custody : Conduct Custody where
  may := Custody.may
  expects := Custody.expects
  next := Custody.next

namespace Custody

open Prog (ask leads_bind leads_ask leads_ask_bind leads_attempt leads_ofExcept)

theorem expected_answer (w : World) (r : Request) : custody.expects r (w.answer r).1 := by
  cases r <;> trivial

/-- Phases in which much may be asked that has nothing to do with keys. -/
def IsOpen : Custody → Prop
  | free | running .. | aside => True
  | _ => False

theorem may_of_keyless {p : Custody} (isOpen : p.IsOpen) {r : Request}
    (keyless : r.isKeyless = true) : custody.may p r := by
  cases p with
  | free => exact .inl keyless
  | running key once => exact .inl keyless
  | aside => exact keyless
  | _ => cases isOpen

theorem next_of_keyless {p : Custody} (isOpen : p.IsOpen) {r : Request}
    (keyless : r.isKeyless = true) (x : Except Failure r.Answer) : custody.next p r x = p := by
  cases p with
  | free => cases r <;> first | rfl | cases keyless
  | running key once => cases r <;> first | rfl | cases keyless
  | aside => rfl
  | _ => cases isOpen

/-! ### Dispatching -/

/-- How a claim may end. -/
def ClaimEnds (key : RunKey) : Except Failure Bool → Custody → Prop
  | .ok true, p => p = cleared key
  | _, p => p = free

theorem leads_claim (key : RunKey) :
    (Dispatch.claim key).Leads custody (ClaimEnds key) free := by
  refine leads_ask_bind (.inr (.inl ⟨key, rfl⟩)) (fun _ _ => rfl) ?_
  intro claimed _
  cases claimed with
  | false => exact rfl
  | true =>
      refine leads_bind (leads_attempt (leads_ask (.inl rfl) ?_))
      intro x _
      cases x with
      | error f => exact leads_ask_bind (.inr rfl) (fun _ _ => rfl) fun _ _ => rfl
      | ok completed =>
          cases completed with
          | false => exact rfl
          | true => exact leads_ask_bind (.inr rfl) (fun _ _ => rfl) fun _ _ => rfl

theorem leads_consider (kind : Open TriggerKind) (context : Context) (v : Filed Workflow) :
    (Dispatch.consider kind context v).Leads custody (fun _ p => p = free) free := by
  refine leads_bind (leads_ofExcept ?_)
  cases v.record.isEligible kind context with
  | error f => exact rfl
  | ok eligible =>
      cases eligible with
      | false => exact rfl
      | true =>
          cases once : v.record.runOnce with
          | true =>
              refine leads_bind ?_
              simp only [Dispatch.mayRun, once, if_true]
              refine (leads_claim _).mono ?_
              intro x p ended
              cases x with
              | error f => exact ended
              | ok claimed =>
                  cases claimed with
                  | false =>
                      obtain rfl : p = free := ended
                      exact leads_ask_bind (.inl rfl) (fun _ _ => rfl) fun _ _ => rfl
                  | true =>
                      obtain rfl : p = cleared _ := ended
                      exact leads_ask_bind ⟨_, rfl, once, rfl⟩ (fun _ _ => rfl) fun _ _ => rfl
          | false =>
              refine leads_bind ?_
              simp only [Dispatch.mayRun, once]
              exact leads_ask_bind (.inr (.inr ⟨_, rfl, once⟩)) (fun _ _ => rfl) fun _ _ => rfl

theorem leads_considerAll (kind : Open TriggerKind) (context : Context)
    (vs : List (Filed Workflow)) :
    (Dispatch.considerAll kind context vs).Leads custody (fun _ p => p = free) free := by
  induction vs with
  | nil => exact rfl
  | cons v vs ih =>
      refine leads_bind (leads_attempt ((leads_consider kind context v).mono ?_))
      rintro x p rfl
      cases x with
      | error f => exact leads_ask_bind (.inl rfl) (fun _ _ => rfl) fun _ _ => rfl
      | ok started =>
          refine leads_bind (ih.mono ?_)
          rintro x p rfl
          cases x with
          | error e => exact rfl
          | ok ids => exact rfl

/-- A dispatch keeps to the code and has no key in the end. -/
theorem leads_dispatch (kind : Open TriggerKind) (context : Context) :
    (Dispatch.dispatch kind context).Leads custody (fun _ p => p.isEnd) free := by
  refine leads_bind (leads_attempt (leads_ask (.inl rfl) ?_))
  intro x _
  cases x with
  | error f => exact leads_ask_bind (.inl rfl) (fun _ _ => trivial) fun _ _ => trivial
  | ok vs =>
      refine (leads_considerAll kind context vs).mono ?_
      rintro x p rfl
      exact trivial

/-! ### Work in the background -/

theorem leads_release (key : RunKey) (once : Bool) :
    (ask (.release key)).Leads custody (fun _ p => p.isEnd) (running key once) :=
  leads_ask (.inr rfl) fun _ _ => trivial

/-- A run gives its key back in the end, whether it has claimed it or not. -/
theorem leads_background (settings : Settings) (q : QueuedRun) :
    (Dispatch.background settings q).Leads custody (fun _ p => p.isEnd)
      (running q.key q.isOnce) := by
  have ran : (Run.run settings q.workflow.record q.trigger q.context none).Leads custody
      (fun _ p => p = running q.key q.isOnce) (running q.key q.isOnce) :=
    (Run.brisk_run _ _ _ _ _).leads (fun _ brisk =>
      have keyless := Request.isKeyless_of_isBrisk brisk
      ⟨may_of_keyless (p := running _ _) trivial keyless,
        next_of_keyless (p := running _ _) trivial keyless⟩) fun _ => rfl
  refine Dispatch.leads_background ran ?_ (fun _ _ _ _ logged => nomatch logged) ?_
  · rintro p entry rfl
    exact ⟨.inl rfl, fun _ => rfl⟩
  · rintro p rfl
    exact leads_release _ _

/-- The phase in which work in the background begins. -/
def begins : Background → Custody
  | .run q => running q.key q.isOnce
  | .delivery _ => aside

theorem suits_begins (work : Background) : (begins work).suits work := by
  cases work with
  | run q => exact ⟨rfl, rfl⟩
  | delivery job => trivial

theorem leads_program (settings : Settings) (work : Background) :
    (work.program settings).Leads custody (fun _ p => p.isEnd) (begins work) := by
  cases work with
  | run q => exact leads_background settings q
  | delivery job =>
      exact (Deliver.isAside_background settings job).leads
        (fun _ aside => ⟨Request.isKeyless_of_isAside aside, fun _ => rfl⟩) fun _ => trivial

theorem suits_next {p : Custody} {r : Request} (x : Except Failure r.Answer) {work : Background}
    (allowed : custody.may p r) (suits : p.suits work) : (custody.next p r x).suits work := by
  cases work with
  | delivery job =>
      cases p with
      | aside => trivial
      | _ => cases suits
  | run q =>
      cases p with
      | running key once =>
          rcases allowed with keyless | rfl
          · rwa [next_of_keyless (p := running key once) trivial keyless]
          · exact suits
      | ended key once => cases allowed
      | _ => cases suits

theorem isDispatching_next {p : Custody} {r : Request} (x : Except Failure r.Answer)
    (allowed : custody.may p r) (dispatching : p.IsDispatching) :
    (custody.next p r x).IsDispatching := by
  cases p with
  | free =>
      rcases allowed with keyless | ⟨key, rfl⟩ | ⟨q, rfl, _⟩
      · rw [next_of_keyless (p := free) trivial keyless]
        trivial
      · rcases x with _ | _ | _ <;> trivial
      · trivial
  | claiming key =>
      rcases allowed with rfl | rfl
      · rcases x with _ | _ | _ <;> trivial
      · trivial
  | cleared key =>
      obtain ⟨q, rfl, _⟩ := allowed
      trivial
  | _ => cases dispatching

/-- Work that is running under no claim is a run that was started without one. -/
theorem isOf_of_suits {k : RunKey} {once : Bool} {work : Background}
    (suits : (running k once).suits work) : work.isOf once k = true := by
  cases work with
  | run q => simp [Background.isOf, QueuedRun.isOf, suits.1, suits.2]
  | delivery job => cases suits

/-- A run that has something to ask is running. -/
theorem running_of_isOf {p : Custody} {r : Request} {k : RunKey} {once : Bool} {work : Background}
    (allowed : custody.may p r) (suits : p.suits work) (run : work.isOf once k = true) :
    p = running k once := by
  cases work with
  | delivery job => cases run
  | run q =>
      simp only [Background.isOf, QueuedRun.isOf, Bool.and_eq_true, decide_eq_true_eq] at run
      cases p with
      | running key once' => rw [← suits.1, ← suits.2, run.1, run.2]
      | ended key once' => cases allowed
      | _ => cases suits

/-- A task holds a key just as long as it is a run that has claimed it and has not ended. -/
theorem holds_eq {k : RunKey} {p : Custody} {task : Task} (suits : p.suits task.work)
    (leads : task.left.Leads custody (fun _ => isEnd) p) :
    p.holds k = (task.work.isOf true k && !task.left.isOver) := by
  obtain ⟨work, left⟩ := task
  cases work with
  | delivery job =>
      cases p with
      | aside => rfl
      | _ => cases suits
  | run q =>
      cases p with
      | running key once =>
          obtain ⟨rfl, rfl⟩ := suits
          have goesOn : left.isOver = false :=
            Bool.not_eq_true _ ▸ fun isOver => leads.ends isOver
          simp [holds, Background.isOf, QueuedRun.isOf, goesOn]
      | ended key once =>
          cases left with
          | call r rest => cases leads.1
          | _ => simp [holds, Prog.isOver]
      | _ => cases suits

/-- A dispatch that has ended, or has yet to begin, holds no key. -/
theorem holds_of_quiet {k : RunKey} {p : Custody} {c : Prog (List Uid)}
    (leads : c.Leads custody (fun _ => isEnd) p) (dispatching : p.IsDispatching)
    (quiet : c.isOver = true ∨ ∃ kind context, c = Dispatch.dispatch kind context) :
    p.holds k = false := by
  cases p with
  | free => rfl
  | claiming key =>
      rcases quiet with isOver | ⟨kind, context, rfl⟩
      · exact absurd (leads.ends isOver) id
      · -- a dispatch begins with the listing, which is not asked for with a key in hand
        rcases leads.1 with listing | listing <;> cases listing
  | cleared key =>
      rcases quiet with isOver | ⟨kind, context, rfl⟩
      · exact absurd (leads.ends isOver) id
      · obtain ⟨q, listing, _⟩ := leads.1
        cases listing
  | _ => cases dispatching

/-! ## The invariant -/

/-- How many keep a key: work in a phase that holds it, and runs that wait and have claimed it. -/
def keepers (k : RunKey) (w : World) (ps : List Custody) : Nat :=
  ps.countP (·.holds k) + w.waiting.countP (·.isOf true k)

/-- A key is not claimed but for one that keeps it, and of those that keep it one has it claimed
still; the others have been robbed of it, each by a robbery of its own. -/
structure Kept (k : RunKey) (n : Nat) (w : World) (ps : List Custody) : Prop where
  held : k ∈ w.claimed → 0 < keepers k w ps
  bound : keepers k w ps ≤ n + if k ∈ w.claimed then 1 else 0

namespace Kept

variable {k : RunKey} {n : Nat} {w w' : World} {front back ps ps' : List Custody}
  {p p' : Custody}

theorem keepers_middle (k : RunKey) (w : World) (front back : List Custody) (p : Custody) :
    keepers k w (front ++ p :: back)
      = keepers k w (front ++ back) + if p.holds k = true then 1 else 0 := by
  simp only [keepers, List.countP_append, List.countP_cons]
  omega

theorem of_same (h : Kept k n w ps) (claimed : k ∈ w'.claimed ↔ k ∈ w.claimed)
    (same : keepers k w' ps' = keepers k w ps) : Kept k n w' ps' := by
  refine ⟨?_, ?_⟩
  · rw [claimed, same]
    exact h.held
  · simp only [claimed, same]
    exact h.bound

theorem of_amidKeys (h : Kept k n w ps) (amid : w.AmidKeys w') : Kept k n w' ps :=
  h.of_same (by rw [amid.claimed]) (by rw [keepers, amid.waiting, ← keepers])

theorem of_phase (h : Kept k n w (front ++ p :: back)) (same : p'.holds k = p.holds k) :
    Kept k n w (front ++ p' :: back) :=
  h.of_same Iff.rfl (by rw [keepers_middle, same, ← keepers_middle])

theorem mem_claimed_release (key : RunKey) :
    k ∈ (w.answer (.release key)).2.claimed ↔ k ∈ w.claimed ∧ k ≠ key := by
  simp

theorem keepers_release (key : RunKey) (ps : List Custody) :
    keepers k (w.answer (.release key)).2 ps = keepers k w ps := rfl

theorem claim (h : Kept k n w (front ++ .free :: back)) (key : RunKey) :
    Kept k n (w.answer (.claim key)).2
      (front ++ custody.next .free (.claim key) (w.answer (.claim key)).1 :: back) := by
  rw [World.answer_claim]
  by_cases claimed : key ∈ w.claimed
  · rw [if_pos claimed]
    exact h
  · rw [if_neg claimed]
    show Kept k n { w with claimed := w.claimed ++ [key] } (front ++ .claiming key :: back)
    have bound := h.bound
    by_cases same : key = k
    · subst same
      rw [keepers_middle, if_neg claimed] at bound
      have one : keepers key { w with claimed := w.claimed ++ [key] }
          (front ++ .claiming key :: back) = keepers key w (front ++ back) + 1 := by
        rw [keepers_middle, if_pos (by simp [Custody.holds])]
        rfl
      refine ⟨fun _ => by omega, ?_⟩
      rw [one, if_pos (by simp)]
      exact Nat.add_le_add_right bound 1
    · refine h.of_same (by simp [Ne.symm same]) ?_
      rw [keepers_middle, keepers_middle]
      simp [Custody.holds, same, keepers, World.waiting]

/-- One that keeps a key gives it back. -/
theorem release {key : RunKey} (h : Kept k n w (front ++ p :: back))
    (holds : p.holds k = decide (key = k)) (gives : p'.holds k = false) :
    Kept k n (w.answer (.release key)).2 (front ++ p' :: back) := by
  by_cases same : key = k
  · subst same
    have bound := h.bound
    have one := keepers_middle key w front back p
    rw [if_pos (by simpa using holds)] at one
    have fewer := keepers_middle key w front back p'
    rw [if_neg (by simp [gives])] at fewer
    have unclaimed : key ∉ (w.answer (.release key)).2.claimed := by
      simp
    refine ⟨fun claimed => absurd claimed unclaimed, ?_⟩
    rw [if_neg unclaimed, keepers_release]
    split at bound <;> omega
  · have other : k ≠ key := Ne.symm same
    refine h.of_same (by simp [other]) ?_
    rw [keepers_release, keepers_middle, keepers_middle, gives, holds]
    simp [same]

/-- One that has no key gives back what is not claimed. -/
theorem release_unclaimed {key : RunKey} (h : Kept k n w (front ++ p :: back))
    (holds : p.holds k = false) (gives : p'.holds k = false)
    (honest : ¬ (key = k ∧ k ∈ w.claimed)) :
    Kept k n (w.answer (.release key)).2 (front ++ p' :: back) := by
  refine (h.of_phase (gives.trans holds.symm)).of_same ?_ (keepers_release key _)
  rw [mem_claimed_release]
  exact and_iff_left_of_imp fun claimed same => honest ⟨same.symm, claimed⟩

/-- A key that is robbed is not claimed any more, and all that kept it go on. -/
theorem robbed (h : Kept k n w (front ++ p :: back)) (holds : p.holds k = false)
    (gives : p'.holds k = false) :
    Kept k (n + 1) (w.answer (.release k)).2 (front ++ p' :: back) := by
  have unclaimed : k ∉ (w.answer (.release k)).2.claimed := by simp
  refine ⟨fun claimed => absurd claimed unclaimed, ?_⟩
  rw [if_neg unclaimed, keepers_release, keepers_middle, gives, ← holds, ← keepers_middle]
  have bound := h.bound
  split at bound <;> omega

theorem start {q : QueuedRun} (h : Kept k n w (front ++ p :: back))
    (passes : p.holds k = q.isOf true k) (gives : p'.holds k = false) :
    Kept k n (w.answer (.start (.run q))).2 (front ++ p' :: back) := by
  have waits : (w.answer (.start (.run q))).2.waiting = w.waiting ++ [q.outline] := by
    simp [World.waiting, Background.run?]
  have outlined : q.outline.isOf true k = q.isOf true k := rfl
  refine h.of_same Iff.rfl ?_
  rw [keepers_middle, keepers_middle, passes, gives]
  simp only [keepers, waits, List.countP_append, List.countP_singleton, outlined]
  simp only [Bool.false_eq_true, if_false, Nat.add_assoc, Nat.add_zero]

/-! ### Every answer, and work that begins -/

theorem answered (h : Kept k n w (front ++ p :: back)) {r : Request} (allowed : custody.may p r)
    (honest : ¬ (p = .running k false ∧ r = .release k ∧ k ∈ w.claimed)) :
    Kept k n (w.answer r).2 (front ++ custody.next p r (w.answer r).1 :: back) := by
  by_cases keyless : r.isKeyless = true
  · refine (h.of_phase ?_).of_amidKeys (w.amidKeys_of_isKeyless keyless)
    cases p with
    | claiming key =>
        rcases allowed with rfl | rfl
        · rcases (w.answer (.hasCompleted key)).1 with _ | _ | _ <;> rfl
        · cases keyless
    | cleared key =>
        obtain ⟨q, rfl, _⟩ := allowed
        cases keyless
    | ended key once => cases allowed
    | free => rw [Custody.next_of_keyless (p := .free) trivial keyless]
    | running key once => rw [Custody.next_of_keyless (p := .running key once) trivial keyless]
    | aside => rfl
  · cases p with
    | free =>
        rcases allowed with here | ⟨key, rfl⟩ | ⟨q, rfl, once⟩
        · exact absurd here keyless
        · exact h.claim key
        · exact h.start (by simp [Custody.holds, QueuedRun.isOf, once]) rfl
    | claiming key =>
        rcases allowed with rfl | rfl
        · exact absurd rfl keyless
        · exact h.release rfl rfl
    | cleared key =>
        obtain ⟨q, rfl, once, rfl⟩ := allowed
        exact h.start (by simp [Custody.holds, QueuedRun.isOf, once]) rfl
    | running key once =>
        rcases allowed with here | rfl
        · exact absurd here keyless
        · cases once with
          | true => exact h.release (by simp [Custody.holds]) rfl
          | false =>
              refine h.release_unclaimed (by simp [Custody.holds]) rfl ?_
              rintro ⟨rfl, claimed⟩
              exact honest ⟨rfl, rfl, claimed⟩
    | ended key once => cases allowed
    | aside => exact absurd allowed keyless

theorem begun (h : Kept k n w ps) {before after : List Background} {work : Background}
    (queued : w.queue = before ++ work :: after) :
    Kept k n { w with queue := before ++ after } (ps ++ [Custody.begins work]) := by
  refine h.of_same Iff.rfl ?_
  simp only [keepers, (World.waiting_of_queued queued).countP_eq, List.countP_append,
    List.countP_singleton]
  cases work with
  | run q =>
      have held : (Custody.begins (.run q)).holds k = q.outline.isOf true k := by
        show (q.isOnce && decide (q.key = k)) = (decide (q.isOnce = true) && decide (q.key = k))
        rw [Bool.decide_eq_true]
      simp only [held, Background.run?, Option.toList_some, List.countP_singleton]
      omega
  | delivery job => simp [Background.run?, Custody.begins, Custody.holds]

end Kept

end Custody

end RecordFlow
