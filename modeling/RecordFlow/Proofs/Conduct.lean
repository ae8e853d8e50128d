/-
# Conduct — what a program may ask, and the phase that an answer leaves it in

A code of conduct says which requests may be made in a phase, with which answers
one has to reckon, and which phase comes after an answer.  Whether a program
keeps to a code is told by recursion on its tree, so a composed program is
judged part by part: `leads_bind`, `leads_attempt` and `leads_ask_bind` are the
rules.

A code earns its keep twice.

* `Leads.run` — a program run alone.  What ties the world to the phase, and is
  broken by no answer that the code allows, holds when the program has ended.
* `Attended.of_reachable` — programs under way together.  The phases of all of
  them are kept on one list; what ties the world to that list, and is broken
  neither by an answer to one of them, nor by work that begins, nor from
  outside, holds in every state of every interleaving.
-/
import RecordFlow.Engine.Schedule

namespace RecordFlow

/-- A code of conduct. -/
structure Conduct (φ : Type) where
  /-- Whether a request may be made in a phase. -/
  may : φ → Request → Prop
  /-- The answers that have to be reckoned with. -/
  expects : (r : Request) → Except Failure r.Answer → Prop
  /-- The phase that an answer leads to. -/
  next : φ → (r : Request) → Except Failure r.Answer → φ

namespace Prog

variable {φ α β : Type} {c : Conduct φ}

/-! ## Keeping to a code -/

/-- From a phase on a program keeps to a code, and comes to an end that is as wanted. -/
def Leads (c : Conduct φ) (wanted : Except Failure α → φ → Prop) : φ → Prog α → Prop
  | p, done a => wanted (.ok a) p
  | p, fail e => wanted (.error e) p
  | p, call r rest =>
    c.may p r ∧ ∀ x, c.expects r x → Leads c wanted (c.next p r x) (rest x)

/-- What is wanted of a first part: after a value the rest has to go on well, and a failure is
the end. -/
def Onward (c : Conduct φ) (wanted : Except Failure β → φ → Prop) (rest : α → Prog β) :
    Except Failure α → φ → Prop
  | .ok a, p => (rest a).Leads c wanted p
  | .error e, p => wanted (.error e) p

theorem leads_bind {m : Prog α} {rest : α → Prog β} {p : φ}
    {wanted : Except Failure β → φ → Prop} (h : m.Leads c (Onward c wanted rest) p) :
    (m >>= rest).Leads c wanted p := by
  show (m.bind rest).Leads c wanted p
  induction m generalizing p with
  | done a => exact h
  | fail e => exact h
  | call r branch ih => exact ⟨h.1, fun x hx => ih x (h.2 x hx)⟩

theorem leads_attempt {m : Prog α} {p : φ} {wanted : Except Failure (Except Failure α) → φ → Prop}
    (h : m.Leads c (fun x q => wanted (.ok x) q) p) : m.attempt.Leads c wanted p := by
  induction m generalizing p with
  | done a => exact h
  | fail e => exact h
  | call r branch ih => exact ⟨h.1, fun x hx => ih x (h.2 x hx)⟩

theorem leads_ask {r : Request} {p : φ} {wanted : Except Failure r.Answer → φ → Prop}
    (may : c.may p r) (h : ∀ x, c.expects r x → wanted x (c.next p r x)) :
    (ask r).Leads c wanted p := by
  refine ⟨may, ?_⟩
  intro x hx
  cases x with
  | ok a => exact h (.ok a) hx
  | error e => exact h (.error e) hx

/-- A request either fails, which is the end, or is answered and the rest goes on. -/
theorem leads_ask_bind {r : Request} {rest : r.Answer → Prog β} {p : φ}
    {wanted : Except Failure β → φ → Prop} (may : c.may p r)
    (fails : ∀ e, c.expects r (.error e) → wanted (.error e) (c.next p r (.error e)))
    (goesOn : ∀ a, c.expects r (.ok a) → (rest a).Leads c wanted (c.next p r (.ok a))) :
    (ask r >>= rest).Leads c wanted p := by
  refine leads_bind (leads_ask may ?_)
  intro x hx
  cases x with
  | ok a => exact goesOn a hx
  | error e => exact fails e hx

/-- A request that leaves the phase as it is may fail, and else the rest goes on in the same
phase. -/
theorem leads_stay_bind {r : Request} {rest : r.Answer → Prog β} {p : φ}
    {wanted : Except Failure β → φ → Prop} (may : c.may p r) (stays : ∀ x, c.next p r x = p)
    (fails : ∀ e, c.expects r (.error e) → wanted (.error e) p)
    (goesOn : ∀ a, c.expects r (.ok a) → (rest a).Leads c wanted p) :
    (ask r >>= rest).Leads c wanted p := by
  refine leads_ask_bind may ?_ ?_
  · intro e expected
    rw [stays]
    exact fails e expected
  · intro a expected
    rw [stays]
    exact goesOn a expected

theorem leads_ofExcept {x : Except Failure α} {p : φ} {wanted : Except Failure α → φ → Prop}
    (h : wanted x p) : (ofExcept x).Leads c wanted p := by
  cases x with
  | ok a => exact h
  | error e => exact h

theorem Leads.mono {m : Prog α} {p : φ} {wanted wanted' : Except Failure α → φ → Prop}
    (h : m.Leads c wanted p) (weaker : ∀ x q, wanted x q → wanted' x q) :
    m.Leads c wanted' p := by
  induction m generalizing p with
  | done a => exact weaker _ _ h
  | fail e => exact weaker _ _ h
  | call r branch ih => exact ⟨h.1, fun x hx => ih x (h.2 x hx)⟩

/-- What a program comes to when its value is told otherwise. -/
theorem leads_map {wanted : Except Failure β → φ → Prop} {p : φ} {m : Prog α} (f : α → β)
    (h : m.Leads c (fun x q => wanted (x.map f) q) p) :
    (f <$> m).Leads c wanted p := by
  rw [map_eq_pure_bind]
  refine leads_bind (h.mono ?_)
  intro x q hx
  cases x with
  | ok a => exact hx
  | error e => exact hx

/-! ## Asking only for some things

The simplest code has one phase.  It is stated apart, since most programs are
only known not to ask for anything that matters. -/

/-- Everything that a program may ask is allowed. -/
def Only (allowed : Request → Prop) : Prog α → Prop
  | done _ => True
  | fail _ => True
  | call r rest => allowed r ∧ ∀ x, Only allowed (rest x)

section Only

variable {allowed : Request → Prop}

theorem only_bind {m : Prog α} {rest : α → Prog β} (h : m.Only allowed)
    (hrest : ∀ a, (rest a).Only allowed) : (m >>= rest).Only allowed := by
  show (m.bind rest).Only allowed
  induction m with
  | done a => exact hrest a
  | fail e => trivial
  | call r branch ih => exact ⟨h.1, fun x => ih x (h.2 x)⟩

theorem only_attempt {m : Prog α} (h : m.Only allowed) : m.attempt.Only allowed := by
  induction m with
  | done a => trivial
  | fail e => trivial
  | call r branch ih => exact ⟨h.1, fun x => ih x (h.2 x)⟩

theorem only_ask {r : Request} (h : allowed r) : (ask r).Only allowed := by
  refine ⟨h, ?_⟩
  intro x
  cases x <;> trivial

theorem only_pure (a : α) : (pure a : Prog α).Only allowed := trivial

theorem only_ofExcept (x : Except Failure α) : (ofExcept x).Only allowed := by
  cases x <;> trivial

theorem only_map {m : Prog α} (f : α → β) (h : m.Only allowed) : (f <$> m).Only allowed := by
  rw [map_eq_pure_bind]
  exact only_bind h fun a => only_pure (f a)

theorem Only.mono {allowed' : Request → Prop} {m : Prog α} (h : m.Only allowed)
    (weaker : ∀ r, allowed r → allowed' r) : m.Only allowed' := by
  induction m with
  | done a => trivial
  | fail e => trivial
  | call r branch ih => exact ⟨weaker r h.1, fun x => ih x (h.2 x)⟩

/-- What leaves the phase as it is can be asked along the way. -/
theorem Only.leads {m : Prog α} {p : φ} {wanted : Except Failure α → φ → Prop}
    (h : m.Only allowed) (idle : ∀ r, allowed r → c.may p r ∧ ∀ x, c.next p r x = p)
    (ends : ∀ x, wanted x p) : m.Leads c wanted p := by
  induction m with
  | done a => exact ends _
  | fail e => exact ends _
  | call r branch ih =>
      refine ⟨(idle r h.1).1, ?_⟩
      intro x _
      rw [(idle r h.1).2 x]
      exact ih x (h.2 x)

/-- What keeps to a code asks only for what it may ask in the phases that it can come to, where
every answer has to be reckoned with. -/
theorem Leads.only {m : Prog α} {p : φ} {wanted : Except Failure α → φ → Prop}
    (h : m.Leads c wanted p) (stays : φ → Prop) (here : stays p)
    (each : ∀ p r, stays p → c.may p r → allowed r ∧ ∀ x, stays (c.next p r x))
    (reckons : ∀ r x, c.expects r x) : m.Only allowed := by
  induction m generalizing p with
  | done a => trivial
  | fail e => trivial
  | call r branch ih =>
      obtain ⟨asks, still⟩ := each p r here h.1
      exact ⟨asks, fun x => ih x (h.2 x (reckons r x)) (still x)⟩

end Only

/-- What asks for nothing either fails, which is the end, or the rest goes on in the same phase. -/
theorem leads_silent_bind {m : Prog α} {rest : α → Prog β} {p : φ}
    {wanted : Except Failure β → φ → Prop} (silent : m.Only fun _ => False)
    (fails : ∀ e, wanted (.error e) p) (goesOn : ∀ a, (rest a).Leads c wanted p) :
    (m >>= rest).Leads c wanted p := by
  refine leads_bind (silent.leads (fun _ => False.elim) fun x => ?_)
  cases x with
  | ok a => exact goesOn a
  | error e => exact fails e

/-! ## Failing only in some ways

A program stops with a failure of its own making or with one that it was
answered.  Told together with what is asked and what it comes to, this is read
off the program once. -/

/-- Everything that a program may ask is allowed, it comes to a value that is right, and it
fails, if it does, in a way of its own or with a failure that it was answered. -/
def Passes (allowed : Request → Prop) (right : α → Prop) : (own : Failure → Prop) → Prog α → Prop
  | _, done a => right a
  | own, fail e => own e
  | own, call r rest =>
    allowed r ∧ ∀ x, Passes allowed right (fun e => own e ∨ x = .error e) (rest x)

section Passes

variable {allowed : Request → Prop} {right : α → Prop} {right' : β → Prop}
  {own own' : Failure → Prop}

theorem Passes.mono {m : Prog α} (h : m.Passes allowed right own) (weaker : ∀ e, own e → own' e) :
    m.Passes allowed right own' := by
  induction m generalizing own own' with
  | done a => exact h
  | fail e => exact weaker e h
  | call r branch ih => exact ⟨h.1, fun x => ih x (h.2 x) fun e => Or.imp_left (weaker e)⟩

theorem Passes.weaken {allowed' : Request → Prop} {m : Prog α} (h : m.Passes allowed right own)
    (weaker : ∀ r, allowed r → allowed' r) : m.Passes allowed' right own := by
  induction m generalizing own with
  | done a => exact h
  | fail e => exact h
  | call r branch ih => exact ⟨weaker r h.1, fun x => ih x (h.2 x)⟩

theorem passes_bind {m : Prog α} {rest : α → Prog β} (h : m.Passes allowed right own)
    (hrest : ∀ a, right a → (rest a).Passes allowed right' own) :
    (m >>= rest).Passes allowed right' own := by
  show (m.bind rest).Passes allowed right' own
  induction m generalizing own with
  | done a => exact hrest a h
  | fail e => exact h
  | call r branch ih =>
      exact ⟨h.1, fun x => ih x (h.2 x) fun a ha => (hrest a ha).mono fun _ => Or.inl⟩

theorem passes_ask {r : Request} (h : allowed r) : (ask r).Passes allowed (fun _ => True) own := by
  refine ⟨h, ?_⟩
  intro x
  cases x with
  | ok a => trivial
  | error e => exact Or.inr rfl

theorem passes_pure {a : α} (h : right a) : (pure a : Prog α).Passes allowed right own := h

theorem passes_ofExcept {x : Except Failure α} (h : ∀ e, x = .error e → own e) :
    (ofExcept x).Passes allowed (fun _ => True) own := by
  cases x with
  | ok a => trivial
  | error e => exact h e rfl

theorem passes_map {m : Prog α} {f : α → β} (h : m.Passes allowed right own)
    (hf : ∀ a, right' (f a)) : (f <$> m).Passes allowed right' own := by
  rw [map_eq_pure_bind]
  exact passes_bind h fun a _ => passes_pure (hf a)

theorem Passes.only {m : Prog α} (h : m.Passes allowed right own) : m.Only allowed := by
  induction m generalizing own with
  | done a => trivial
  | fail e => trivial
  | call r branch ih => exact ⟨h.1, fun x => ih x (h.2 x)⟩

/-- What passes leaves the phase as it is, where all that it may ask does; and where the answers
to reckon with fail in certain ways only, so does the program. -/
theorem Passes.leads {m : Prog α} {p : φ} (h : m.Passes allowed right own)
    (idle : ∀ r, allowed r → c.may p r ∧ ∀ x, c.next p r x = p)
    (answers : ∀ r e, c.expects r (.error e) → own e) :
    m.Leads c (fun x q => q = p ∧ match x with
      | .ok a => right a
      | .error e => own e) p := by
  induction m with
  | done a => exact ⟨rfl, h⟩
  | fail e => exact ⟨rfl, h⟩
  | call r branch ih =>
      refine ⟨(idle r h.1).1, ?_⟩
      intro x hx
      rw [(idle r h.1).2 x]
      refine ih x ((h.2 x).mono ?_)
      rintro e (here | rfl)
      · exact here
      · exact answers r e hx

end Passes

/-! ## One program alone -/

/-- What is tied to the phase and broken by no answer holds at the end of a run. -/
theorem Leads.run {Tied : World → φ → Prop}
    (answered : ∀ w p r, Tied w p → c.may p r →
      c.expects r (w.answer r).1 ∧ Tied (w.answer r).2 (c.next p r (w.answer r).1))
    {m : Prog α} {p : φ} {w : World} {wanted : Except Failure α → φ → Prop}
    (h : m.Leads c wanted p) (tied : Tied w p) :
    ∃ q, wanted (m.run w).1 q ∧ Tied (m.run w).2 q := by
  induction m generalizing p w with
  | done a => exact ⟨p, h, tied⟩
  | fail e => exact ⟨p, h, tied⟩
  | call r branch ih =>
      obtain ⟨expected, still⟩ := answered w p r tied h.1
      exact ih _ (h.2 _ expected) still

/-- What a run comes to is right. -/
theorem Passes.ok_of_run {allowed : Request → Prop} {right : α → Prop} {own : Failure → Prop}
    {m : Prog α} {w : World} {a : α} (h : m.Passes allowed right own)
    (ran : (m.run w).1 = .ok a) : right a := by
  induction m generalizing own w with
  | done b =>
      obtain rfl := Except.ok.inj ran
      exact h
  | fail e => cases ran
  | call r branch ih => exact ih _ (h.2 _) ran

/-- What no allowed answer breaks holds at the end of a run. -/
theorem Only.run {allowed : Request → Prop} (Kept : World → Prop)
    (answered : ∀ w r, Kept w → allowed r → Kept (w.answer r).2)
    {m : Prog α} {w : World} (h : m.Only allowed) (kept : Kept w) : Kept (m.run w).2 := by
  induction m generalizing w with
  | done a => exact kept
  | fail e => exact kept
  | call r branch ih => exact ih _ (h.2 _) (answered w r kept h.1)

end Prog

/-! ## What is built around a run

A run that somebody asks for by its workflow, and one in the background, keep to
every code that the run itself keeps to, wherever the little that is asked
around it is allowed. -/

section Around

open Prog (ask leads_bind leads_attempt leads_stay_bind)

variable {φ : Type} {c : Conduct φ} {p : φ} {goes ends : φ → Prop}

theorem Run.leads_runById {settings : Settings} {id : Uid} {trigger : Open TriggerKind}
    {context : Context} {triggeredBy : Option String} (may : c.may p (.getWorkflow id))
    (stays : ∀ x, c.next p (.getWorkflow id) x = p) (absent : ends p)
    (runs : ∀ workflow,
      (Run.run settings workflow trigger context triggeredBy).Leads c (fun _ => ends) p) :
    (Run.runById settings id trigger context triggeredBy).Leads c (fun _ => ends) p := by
  refine leads_stay_bind may stays (fun _ _ => absent) fun workflow _ => ?_
  cases workflow with
  | none => exact absent
  | some workflow =>
      refine leads_bind ((runs workflow.record).mono ?_)
      intro x q ended
      cases x with
      | ok e => exact ended
      | error f => exact ended

theorem Dispatch.leads_background {settings : Settings} {q : QueuedRun}
    (runs : (Run.run settings q.workflow.record q.trigger q.context none).Leads c
      (fun _ => goes) p)
    (logs : ∀ p entry, goes p → c.may p (.log entry) ∧ ∀ x, c.next p (.log entry) x = p)
    (fails : ∀ p entry e, goes p → c.expects (.log entry) (.error e) → ends p)
    (release : ∀ p, goes p → (ask (.release q.key)).Leads c (fun _ => ends) p) :
    (Dispatch.background settings q).Leads c (fun _ => ends) p := by
  refine leads_bind (leads_attempt (runs.mono ?_))
  intro x p ran
  cases x with
  | ok e => exact release p ran
  | error f =>
      obtain ⟨may, stays⟩ := logs p (Dispatch.backgroundFailed q f) ran
      exact leads_stay_bind may stays (fails p _ · ran) fun _ _ => release p ran

end Around

/-! ## Programs under way together -/

namespace System

variable {φ α : Type}

/-- What has to be shown of a code, of the ends it allows, of the phases that suit the work in
the background, and of what ties a world to the phases of all that is under way in it. -/
structure Attends (c : Conduct φ) (ends : φ → Prop) (suits : φ → Background → Prop)
    (settings : Settings) (outside : World → World → Prop)
    (Tied : World → List φ → Prop) : Prop where
  /-- No answer breaks the tie. -/
  answered : ∀ w before p after r, Tied w (before ++ p :: after) → c.may p r →
    c.expects r (w.answer r).1 ∧
      Tied (w.answer r).2 (before ++ c.next p r (w.answer r).1 :: after)
  /-- A phase goes on to suit the work. -/
  suited : ∀ p r x work, c.may p r → suits p work → suits (c.next p r x) work
  /-- Work that begins is in a phase that suits it and from which it keeps to the code. -/
  begun : ∀ w ps before work after, Tied w ps → w.queue = before ++ work :: after →
    ∃ p, suits p work ∧ (work.program settings).Leads c (fun _ => ends) p ∧
      Tied { w with queue := before ++ after } (ps ++ [p])
  /-- Nothing from outside breaks the tie. -/
  changed : ∀ w w' ps, outside w w' → Tied w ps → Tied w' ps

/-- All that is under way keeps to the code, each from a phase of its own, and the world is
tied to these phases. -/
def Attended (c : Conduct φ) (ends : φ → Prop) (suits : φ → Background → Prop)
    (Tied : World → List φ → Prop) (s : System α) : Prop :=
  ∃ (calls : List (φ × Prog α)) (tasks : List (φ × Task)),
    s.calls = calls.map Prod.snd ∧ s.tasks = tasks.map Prod.snd ∧
    (∀ x ∈ calls, x.2.Leads c (fun _ => ends) x.1) ∧
    (∀ x ∈ tasks, x.2.left.Leads c (fun _ => ends) x.1 ∧ suits x.1 x.2.work) ∧
    Tied s.world (calls.map Prod.fst ++ tasks.map Prod.fst)

variable {c : Conduct φ} {ends : φ → Prop} {suits : φ → Background → Prop}
  {settings : Settings} {outside : World → World → Prop} {Tied : World → List φ → Prop}

/-- A system is attended from the start on where all its calls keep to the code from one phase,
nothing else is under way, and the world is tied to that phase as often as there are calls. -/
theorem Attended.of_start {s : System α} (p : φ)
    (calls : ∀ m ∈ s.calls, m.Leads c (fun _ => ends) p) (tasks : s.tasks = [])
    (tied : Tied s.world (List.replicate s.calls.length p)) : Attended c ends suits Tied s := by
  have phases : (s.calls.map fun m => (p, m)).map Prod.fst = List.replicate s.calls.length p := by
    rw [List.map_map]
    exact List.map_const
  refine ⟨s.calls.map fun m => (p, m), [], by simp [Function.comp_def], tasks, ?_, by simp, ?_⟩
  · intro x hx
    obtain ⟨m, hm, rfl⟩ := List.mem_map.mp hx
    exact calls m hm
  · rw [List.map_nil, List.append_nil, phases]
    exact tied

/-- A list of pairs whose second parts have an item in the middle has it there itself. -/
theorem split_labelled {ι : Type} {xs : List (φ × ι)} {before after : List ι} {y : ι}
    (h : before ++ y :: after = xs.map Prod.snd) :
    ∃ as p bs, xs = as ++ (p, y) :: bs ∧ before = as.map Prod.snd ∧ after = bs.map Prod.snd := by
  obtain ⟨as, rest, rfl, hbefore, hrest⟩ := List.map_eq_append_iff.mp h.symm
  obtain ⟨⟨p, z⟩, bs, rfl, rfl, hafter⟩ := List.map_eq_cons_iff.mp hrest
  exact ⟨as, p, bs, rfl, hbefore.symm, hafter.symm⟩

/-! ### One step

What is attended before a step has a phase for whoever makes it; and once the tie is shown for the
phase that comes after, in whatever form, all is attended after the step as well. -/

section Moves

variable {w : World}

theorem Attended.leadsCall {before after : List (Prog α)} {tasks : List Task} {r : Request}
    {rest : Except Failure r.Answer → Prog α}
    (h : Attended c ends suits Tied ⟨w, before ++ .call r rest :: after, tasks⟩) :
    ∃ front p back, front.length = before.length ∧ Tied w (front ++ p :: back) ∧
      (Prog.call r rest).Leads c (fun _ => ends) p ∧
      ∀ Tied' : World → List φ → Prop, c.expects r (w.answer r).1 →
        Tied' (w.answer r).2 (front ++ c.next p r (w.answer r).1 :: back) →
        Attended c ends suits Tied'
          ⟨(w.answer r).2, before ++ rest (w.answer r).1 :: after, tasks⟩ := by
  obtain ⟨calls, tasks, hcalls, htasks, keepCalls, keepTasks, tied⟩ := h
  obtain ⟨as, p, bs, rfl, rfl, rfl⟩ := split_labelled hcalls
  have keeps := keepCalls (p, .call r rest) (by simp)
  refine ⟨as.map Prod.fst, p, bs.map Prod.fst ++ tasks.map Prod.fst, by simp, by simpa using tied,
    keeps, ?_⟩
  intro Tied' expected tied'
  refine ⟨as ++ (c.next p r (w.answer r).1, rest (w.answer r).1) :: bs, tasks, by simp, htasks, ?_,
    keepTasks, by simpa using tied'⟩
  intro x hx
  rcases List.mem_append.mp hx with hx | hx
  · exact keepCalls x (List.mem_append_left _ hx)
  · rcases List.mem_cons.mp hx with rfl | hx
    · exact keeps.2 _ expected
    · exact keepCalls x (List.mem_append_right _ (List.mem_cons_of_mem _ hx))

theorem Attended.atCall {before after : List (Prog α)} {tasks : List Task} {r : Request}
    {rest : Except Failure r.Answer → Prog α}
    (h : Attended c ends suits Tied ⟨w, before ++ .call r rest :: after, tasks⟩) :
    ∃ front p back, front.length = before.length ∧ Tied w (front ++ p :: back) ∧ c.may p r ∧
      ∀ Tied' : World → List φ → Prop, c.expects r (w.answer r).1 →
        Tied' (w.answer r).2 (front ++ c.next p r (w.answer r).1 :: back) →
        Attended c ends suits Tied'
          ⟨(w.answer r).2, before ++ rest (w.answer r).1 :: after, tasks⟩ := by
  obtain ⟨front, p, back, length, tied, leads, onward⟩ := h.leadsCall
  exact ⟨front, p, back, length, tied, leads.1, onward⟩

theorem Attended.leadsTask {calls : List (Prog α)} {before after : List Task} {work : Background}
    {r : Request} {rest : Except Failure r.Answer → Prog Unit}
    (h : Attended c ends suits Tied ⟨w, calls, before ++ ⟨work, .call r rest⟩ :: after⟩) :
    ∃ front p back, Tied w (front ++ p :: back) ∧
      (Prog.call r rest).Leads c (fun _ => ends) p ∧ suits p work ∧
      ∀ Tied' : World → List φ → Prop, c.expects r (w.answer r).1 →
        suits (c.next p r (w.answer r).1) work →
        Tied' (w.answer r).2 (front ++ c.next p r (w.answer r).1 :: back) →
        Attended c ends suits Tied'
          ⟨(w.answer r).2, calls, before ++ ⟨work, rest (w.answer r).1⟩ :: after⟩ := by
  obtain ⟨calls, tasks, hcalls, htasks, keepCalls, keepTasks, tied⟩ := h
  obtain ⟨as, p, bs, rfl, rfl, rfl⟩ := split_labelled htasks
  have keeps := keepTasks (p, ⟨work, .call r rest⟩) (by simp)
  refine ⟨calls.map Prod.fst ++ as.map Prod.fst, p, bs.map Prod.fst, by simpa using tied,
    keeps.1, keeps.2, ?_⟩
  intro Tied' expected suited tied'
  refine ⟨calls, as ++ (c.next p r (w.answer r).1, ⟨work, rest (w.answer r).1⟩) :: bs, hcalls,
    by simp, keepCalls, ?_, by simpa using tied'⟩
  intro x hx
  rcases List.mem_append.mp hx with hx | hx
  · exact keepTasks x (List.mem_append_left _ hx)
  · rcases List.mem_cons.mp hx with rfl | hx
    · exact ⟨keeps.1.2 _ expected, suited⟩
    · exact keepTasks x (List.mem_append_right _ (List.mem_cons_of_mem _ hx))

theorem Attended.atTask {calls : List (Prog α)} {before after : List Task} {work : Background}
    {r : Request} {rest : Except Failure r.Answer → Prog Unit}
    (h : Attended c ends suits Tied ⟨w, calls, before ++ ⟨work, .call r rest⟩ :: after⟩) :
    ∃ front p back, Tied w (front ++ p :: back) ∧ c.may p r ∧ suits p work ∧
      ∀ Tied' : World → List φ → Prop, c.expects r (w.answer r).1 →
        suits (c.next p r (w.answer r).1) work →
        Tied' (w.answer r).2 (front ++ c.next p r (w.answer r).1 :: back) →
        Attended c ends suits Tied'
          ⟨(w.answer r).2, calls, before ++ ⟨work, rest (w.answer r).1⟩ :: after⟩ := by
  obtain ⟨front, p, back, tied, leads, suited, onward⟩ := h.leadsTask
  exact ⟨front, p, back, tied, leads.1, suited, onward⟩

theorem Attended.atBegin {calls : List (Prog α)} {tasks : List Task}
    (h : Attended c ends suits Tied ⟨w, calls, tasks⟩) (w' : World) (work : Background) :
    ∃ ps, Tied w ps ∧ ∀ (Tied' : World → List φ → Prop) (p : φ), suits p work →
      (work.program settings).Leads c (fun _ => ends) p → Tied' w' (ps ++ [p]) →
      Attended c ends suits Tied' ⟨w', calls, tasks ++ [⟨work, work.program settings⟩]⟩ := by
  obtain ⟨calls, tasks, hcalls, htasks, keepCalls, keepTasks, tied⟩ := h
  refine ⟨_, tied, ?_⟩
  intro Tied' p suited keeps tied'
  have hall := congrArg (· ++ [Task.mk work (work.program settings)]) htasks
  refine ⟨calls, tasks ++ [(p, ⟨work, work.program settings⟩)], hcalls, by simpa using hall,
    keepCalls, ?_, by simpa using tied'⟩
  intro x hx
  rcases List.mem_append.mp hx with hx | hx
  · exact keepTasks x hx
  · rcases List.mem_singleton.mp hx with rfl
    exact ⟨keeps, suited⟩

theorem Attended.atChange {calls : List (Prog α)} {tasks : List Task}
    (h : Attended c ends suits Tied ⟨w, calls, tasks⟩) (w' : World) :
    ∃ ps, Tied w ps ∧ ∀ Tied' : World → List φ → Prop, Tied' w' ps →
      Attended c ends suits Tied' ⟨w', calls, tasks⟩ := by
  obtain ⟨calls, tasks, hcalls, htasks, keepCalls, keepTasks, tied⟩ := h
  exact ⟨_, tied, fun Tied' tied' => ⟨calls, tasks, hcalls, htasks, keepCalls, keepTasks, tied'⟩⟩

end Moves

theorem Attended.step (attends : Attends c ends suits settings outside Tied) {s t : System α}
    (move : Step settings outside s t) (h : Attended c ends suits Tied s) :
    Attended c ends suits Tied t := by
  cases move with
  | call w before after tasks r rest ready =>
      obtain ⟨front, p, back, _, tied, allowed, onward⟩ := h.atCall
      obtain ⟨expected, here⟩ := attends.answered w front p back r tied allowed
      exact onward Tied expected here
  | task w calls before after work r rest ready =>
      obtain ⟨front, p, back, tied, allowed, suited, onward⟩ := h.atTask
      obtain ⟨expected, here⟩ := attends.answered w front p back r tied allowed
      exact onward Tied expected (attends.suited p r _ work allowed suited) here
  | «begin» w calls tasks before after work queued =>
      obtain ⟨ps, tied, onward⟩ := h.atBegin { w with queue := before ++ after } work
      obtain ⟨p, suited, keeps, here⟩ := attends.begun w ps before work after tied queued
      exact onward Tied p suited keeps here
  | change w w' calls tasks allowed =>
      obtain ⟨ps, tied, onward⟩ := h.atChange w'
      exact onward Tied (attends.changed w w' ps allowed tied)

/-- What is attended at the start is attended in every state of every interleaving. -/
theorem Attended.of_reachable (attends : Attends c ends suits settings outside Tied)
    {start s : System α} (reachable : Reachable settings outside start s)
    (atStart : Attended c ends suits Tied start) : Attended c ends suits Tied s :=
  reachable.keeps atStart fun _ _ move h => h.step attends move

/-! ### Calls come first

The phases of the calls stand before those of the tasks, and there are as many of them as there
were calls at the start; so what a call never leaves off can be told of them. -/

/-- There are phases for so many calls, and they are of a kind. -/
def Fronted (kind : φ → Prop) (n : Nat) (ps : List φ) : Prop :=
  n ≤ ps.length ∧ ∀ p ∈ ps.take n, kind p

section Fronted

variable {kind : φ → Prop} {n : Nat}

theorem Fronted.change {before after : List φ} {p q : φ} (h : Fronted kind n (before ++ p :: after))
    (kept : kind p → kind q) : Fronted kind n (before ++ q :: after) := by
  refine ⟨by simpa using h.1, ?_⟩
  intro x hx
  rw [List.take_append] at hx
  have there := h.2
  rw [List.take_append] at there
  rcases List.mem_append.mp hx with hx | hx
  · exact there x (List.mem_append_left _ hx)
  · cases left : n - before.length with
    | zero =>
        rw [left] at hx
        cases hx
    | succ m =>
        rw [left] at hx there
        rcases List.mem_cons.mp hx with rfl | hx
        · exact kept (there p (List.mem_append_right _ List.mem_cons_self))
        · exact there x (List.mem_append_right _ (List.mem_cons_of_mem _ hx))

theorem Fronted.append {ps : List φ} (h : Fronted kind n ps) (p : φ) :
    Fronted kind n (ps ++ [p]) := by
  refine ⟨by rw [List.length_append]; exact Nat.le_add_right_of_le h.1, ?_⟩
  rw [List.take_append_of_le_length h.1]
  exact h.2

theorem Fronted.forall_mem {xs ys : List φ} (h : Fronted kind xs.length (xs ++ ys)) :
    ∀ p ∈ xs, kind p := by
  have front := h.2
  rwa [List.take_left] at front

/-- What is told of the phases of the calls is told of one that stands among them. -/
theorem Fronted.of_front {front back : List φ} {p : φ} (h : Fronted kind n (front ++ p :: back))
    (there : front.length < n) : kind p := by
  have here : (front ++ p :: back).take (front.length + 1) = front ++ [p] := by
    simp [List.take_append, List.take_of_length_le]
  refine h.2 p ((List.take_sublist_take_left (Nat.succ_le_of_lt there)).mem ?_)
  rw [here]
  exact List.mem_append_right _ (List.mem_singleton_self p)

theorem Attends.fronted (attends : Attends c ends suits settings outside Tied)
    (kept : ∀ p r x, c.may p r → kind p → kind (c.next p r x)) (n : Nat) :
    Attends c ends suits settings outside fun w ps => Tied w ps ∧ Fronted kind n ps where
  answered w before p after r tied allowed := by
    obtain ⟨expected, here⟩ := attends.answered w before p after r tied.1 allowed
    exact ⟨expected, here, tied.2.change (kept p r _ allowed)⟩
  suited := attends.suited
  begun w ps before work after tied queued := by
    obtain ⟨p, suited, keeps, here⟩ := attends.begun w ps before work after tied.1 queued
    exact ⟨p, suited, keeps, here, tied.2.append p⟩
  changed w w' ps allowed tied := ⟨attends.changed w w' ps allowed tied.1, tied.2⟩

end Fronted

theorem Step.mono {outside' : World → World → Prop} {s t : System α}
    (move : Step settings outside s t) (wider : ∀ w w', outside w w' → outside' w w') :
    Step settings outside' s t := by
  cases move with
  | call w before after tasks r rest ready => exact .call w before after tasks r rest ready
  | task w calls before after work r rest ready =>
      exact .task w calls before after work r rest ready
  | «begin» w calls tasks before after work queued =>
      exact .begin w calls tasks before after work queued
  | change w w' calls tasks allowed => exact .change w w' calls tasks (wider w w' allowed)

/-- What happens under a narrower rule for changes from outside happens under a wider one. -/
theorem Reachable.mono {outside' : World → World → Prop} {start s : System α}
    (h : Reachable settings outside start s) (wider : ∀ w w', outside w w' → outside' w w') :
    Reachable settings outside' start s := by
  induction h with
  | refl => exact .refl
  | step _ move ih => exact ih.step (move.mono wider)

/-- Calls are made at the start only. -/
theorem Reachable.calls_length {start s : System α} (h : Reachable settings outside start s) :
    s.calls.length = start.calls.length := by
  induction h with
  | refl => rfl
  | step _ move ih =>
      rw [← ih]
      cases move <;> simp

end System
end RecordFlow
