/-
# Draining — every run that waits leaves one execution

In a store that keeps everything in memory, a run in the background is carried
to its end in one turn and leaves one execution, of its own origin, behind
those that were there; a delivery leaves none.  So when the background has been
carried to its end, there is one new execution for each run that was waiting,
in the order of waiting: `drain_books`.

What becomes of the deliveries is not told here.
-/
import RecordFlow.Proofs.Duty
import RecordFlow.Proofs.Claims
import RecordFlow.Proofs.Sequential

namespace RecordFlow

/-! ## The last execution of a list -/

section

variable {xs : List Execution} {e e' : Execution}

theorem modify_last (absent : e.id ∉ xs.map Execution.id) (same : e'.id = e.id) :
    Keyed.modify Execution.id e'.id (fun _ => e') (xs ++ [e]) = xs ++ [e'] := by
  rw [Keyed.modify, List.map_append, ← Keyed.modify, modify_of_fresh (same ▸ absent)]
  simp [same]

theorem put_last (absent : e.id ∉ xs.map Execution.id) (same : e'.id = e.id) :
    Keyed.put Execution.id e' (xs ++ [e]) = xs ++ [e'] := by
  induction xs with
  | nil => simp [Keyed.put, same]
  | cons x xs ih =>
      simp only [List.map_cons, List.mem_cons, not_or] at absent
      have other : x.id ≠ e'.id := fun h => absent.1 (h.trans same).symm
      rw [List.cons_append, Keyed.put, if_neg other, ih absent.2, List.cons_append]

end

/-! ## What is known of a world -/

/-- What is in the books of a world whose store is in memory: the runs that wait, and the
executions, whose identifiers have been issued; and the store can be given new ones. -/
structure World.Books (w : World) (waiting : List QueuedRun) (es : List Execution) : Prop where
  table : w.store.table = .inl es
  waiting : w.waiting = waiting
  issued : ∀ e ∈ es, ∀ n, e.id = .issued n → n ≤ w.issued
  spared : w.Spares "store.create_execution"

namespace World.Books

variable {w w' : World} {qs : List QueuedRun} {xs es : List Execution} {o : Origin}

theorem of_aside (h : w.Books qs es) (aside : w.Aside w')
    (spared : w'.Spares "store.create_execution") : w'.Books qs es :=
  ⟨aside.table.trans h.table, aside.waiting.trans h.waiting,
    fun e he n hn => aside.issued ▸ h.issued e he n hn, spared⟩

theorem issued_last {e e' : Execution} {n : Nat}
    (h : ∀ x ∈ xs ++ [e], ∀ i, x.id = .issued i → i ≤ n) (same : e'.id = e.id) :
    ∀ x ∈ xs ++ [e'], ∀ i, x.id = .issued i → i ≤ n := by
  intro x hx i hi
  rcases List.mem_append.mp hx with hx | hx
  · exact h x (List.mem_append_left _ hx) i hi
  · obtain rfl := List.mem_singleton.mp hx
    exact h e (by simp) i (same.symm.trans hi)

theorem answer (h : w.Books qs es) {r : Request} (aside : r.isAside = true) :
    (w.answer r).2.Books qs es :=
  h.of_aside (w.aside_answer aside) (h.spared.answer r)

theorem publish {e e' : Execution} (h : w.Books qs (xs ++ [e]))
    (absent : e.id ∉ xs.map Execution.id) (same : e'.id = e.id) :
    (w.answer (.publishExecution e')).2.Books qs (xs ++ [e']) where
  table := by
    obtain ⟨m, hs, here⟩ := Store.memory_of_table h.table
    rw [World.answer_publishExecution, hs]
    show Sum.inl (Keyed.modify Execution.id e'.id (fun _ => e') m.executions) = _
    rw [here, modify_last absent same]
  waiting := h.waiting
  issued := issued_last h.issued same
  spared := h.spared

theorem finish {e e' : Execution} (h : w.Books qs (xs ++ [e]))
    (absent : e.id ∉ xs.map Execution.id) (same : e'.id = e.id) :
    (w.answer (.finishExecution e')).2.Books qs (xs ++ [e]) ∨
      (w.answer (.finishExecution e')).2.Books qs (xs ++ [e']) := by
  have spared := h.spared.answer (.finishExecution e')
  rcases w.answer_cases (.finishExecution e') with ⟨no, _⟩ | ⟨f, faults, ha⟩ | ⟨faults, ha⟩
  · cases no
  · rw [ha] at spared ⊢
    exact .inl (h.of_aside (.withFaults w faults) spared)
  · rw [ha] at spared ⊢
    obtain ⟨_, waiting, issued, store⟩ := World.perform_finishExecution { w with faults } e'
    refine .inr ⟨?_, waiting.trans h.waiting, ?_, spared⟩
    · obtain ⟨m, hs, here⟩ := Store.memory_of_table h.table
      rw [store]
      show (Store.finishExecution w.store e').2.table = _
      rw [hs]
      show Sum.inl (Keyed.put Execution.id e' m.executions) = _
      rw [here, put_last absent same]
    · rw [issued]
      exact issued_last h.issued same

end World.Books

/-! ## The turn of a run -/

/-- What is in the books from the opening of a run on: the executions that were there, and one of
its origin. -/
def Entered (qs : List QueuedRun) (xs : List Execution) (o : Origin) (w : World) : Phase → Prop
  | .running o' e => o' = o ∧ e.id ∉ xs.map Execution.id ∧
      ∃ e', w.Books qs (xs ++ [e']) ∧ e'.id = e.id ∧ e'.origin = o
  | .released => ∃ e', w.Books qs (xs ++ [e']) ∧ e'.origin = o
  | _ => False

section

variable {qs : List QueuedRun} {xs : List Execution} {o : Origin} {w : World} {p : Phase}
  {r : Request}

theorem Entered.answered (h : Entered qs xs o w p) (allowed : (duty fun _ => True).may p r) :
    (duty fun _ => True).expects r (w.answer r).1 ∧
      Entered qs xs o (w.answer r).2 ((duty fun _ => True).next p r (w.answer r).1) := by
  refine ⟨expected_answer (fun _ _ => trivial) r, ?_⟩
  cases p with
  | running o' e =>
      obtain ⟨rfl, absent, e', books, same, origin⟩ := h
      rcases allowed with prompt | ⟨e'', rfl | rfl, follows⟩ | rfl
      · have aside := Request.isAside_of_isPrompt prompt
        show Entered qs xs o' _ (Duty.next (.running o' e) r _)
        rw [Duty.next_of_aside (p := .running o' e) trivial aside]
        exact ⟨rfl, absent, e', books.answer aside, same, origin⟩
      · have id := follows.id.trans same.symm
        refine ⟨rfl, follows.id ▸ absent, e'', ?_, rfl, follows.origin⟩
        exact books.publish (same ▸ absent) id
      · have id := follows.id.trans same.symm
        rcases books.finish (same ▸ absent) id with kept | written
        · exact ⟨rfl, follows.id ▸ absent, e', kept, id.symm, origin⟩
        · exact ⟨rfl, follows.id ▸ absent, e'', written, rfl, follows.origin⟩
      · exact ⟨e', ⟨books.table, books.waiting, books.issued, books.spared⟩, origin⟩
  | released => cases allowed
  | _ => cases h

theorem Entered.steady (h : Entered qs xs o w p) (allowed : (duty fun _ => True).may p r) :
    Prog.yields r = false ∧ w.isReady r = true := by
  cases p with
  | running o' e =>
      rcases allowed with prompt | ⟨e'', rfl | rfl, _⟩ | rfl
      · exact ⟨(Request.steady_of_isPrompt prompt).1, (Request.steady_of_isPrompt prompt).2 w⟩
      · exact ⟨rfl, rfl⟩
      · exact ⟨rfl, rfl⟩
      · exact ⟨rfl, rfl⟩
  | released => cases allowed
  | _ => cases h

/-- In memory, an entry is opened behind the executions that are there. -/
theorem World.Books.openEntry (books : w.Books qs xs) {e : Execution} (origin : e.origin = o) :
    ∃ n w₀, w.answer (.openExecution e) = (.ok { e with id := .issued n }, w₀) ∧
      Entered qs xs o w₀ (.running o { e with id := .issued n }) := by
  have fresh : RecordId.issued (w.issued + 1) ∉ xs.map Execution.id := by
    intro mem
    obtain ⟨x, hx, hid⟩ := List.mem_map.mp mem
    exact Nat.not_succ_le_self _ (books.issued x hx _ hid)
  obtain ⟨m, hs, here⟩ := Store.memory_of_table books.table
  have spared := books.spared.answer (.openExecution e)
  have answered := World.answer_of_spared (r := .openExecution e) rfl books.spared rfl rfl
  simp only [World.perform, World.storing, hs, Store.createExecution] at answered
  refine ⟨w.issued + 1, _, answered, rfl, fresh, _, ⟨?_, books.waiting, ?_, ?_⟩, rfl, origin⟩
  · show Sum.inl (Keyed.put Execution.id _ m.executions) = _
    rw [here, put_of_fresh fresh]
  · intro x hx i hi
    rcases List.mem_append.mp hx with hx | hx
    · exact Nat.le_succ_of_le (books.issued x hx i hi)
    · obtain rfl := List.mem_singleton.mp hx
      exact Nat.le_of_eq (RecordId.issued.inj hi).symm
  · rwa [answered] at spared

/-- A run is done in one turn and leaves one execution, of its origin. -/
theorem run_turn (settings : Settings) {q : QueuedRun} (sound : q.IsSound)
    (books : w.Books qs xs) :
    ∃ w' e, (Dispatch.background settings q).runTurn w = (none, w') ∧ w'.Books qs (xs ++ [e]) ∧
      e.origin = q.origin := by
  have leads : (Dispatch.background settings q).Leads (duty fun _ => True)
      (fun _ p => p.isEnd) (.due q.origin) := Duty.leads_background settings sound
  have begun := leads.2 (.ok w.clock) trivial
  have origin : (Execution.opening q.workflow.record q.trigger q.context none w.clock).origin
      = q.origin := by
    rw [QueuedRun.origin, sound]
    rfl
  obtain ⟨n, w₀, opened, entered⟩ := books.openEntry origin
  have onward := begun.2 (.ok { Execution.opening q.workflow.record q.trigger q.context none
    w.clock with id := .issued n }) ⟨n, rfl⟩
  have turn := Prog.runTurn_eq_run (fun _ _ _ => Entered.answered) (fun _ _ _ => Entered.steady)
    onward entered
  obtain ⟨p, ended, last⟩ := onward.run (fun _ _ _ => Entered.answered) entered
  have released : p = .released := by
    cases p with
    | released => rfl
    | running o e => cases ended
    | _ => cases last
  subst released
  obtain ⟨e, books', he⟩ := last
  refine ⟨_, e, ?_, books', he⟩
  refine (Prog.runTurn_call (r := .now) rfl rfl).trans ?_
  refine (Prog.runTurn_call (r := .openExecution _) rfl rfl).trans ?_
  rw [World.answer_now, opened]
  exact turn

end

/-! ## Rounds -/

/-- A turn of work that is aside leaves the books as they are, and what is left of the work is
aside. -/
theorem aside_turn {m : Prog Unit} {w : World} {qs : List QueuedRun} {es : List Execution}
    (aside : m.IsAside) (books : w.Books qs es) :
    (m.runTurn w).2.Books qs es ∧ ∀ left ∈ (m.runTurn w).1, left.IsAside := by
  induction m generalizing w with
  | done a => exact ⟨books, fun _ h => nomatch h⟩
  | fail e => exact ⟨books, fun _ h => nomatch h⟩
  | call r rest ih =>
      have after := books.answer aside.1
      by_cases ready : w.isReady r = true
      · by_cases yields : Prog.yields r = true
        · rw [Prog.runTurn_yield yields ready]
          exact ⟨after, fun left h => Option.some.inj h ▸ aside.2 _⟩
        · rw [Prog.runTurn_call (Bool.not_eq_true _ ▸ yields) ready]
          exact ih _ (aside.2 _) after
      · rw [Prog.runTurn_wait (Bool.not_eq_true _ ▸ ready)]
        exact ⟨books, fun left h => Option.some.inj h ▸ aside⟩

/-- Tasks that are to leave executions of these origins: runs that have not begun, among work that
is aside. -/
inductive Plans (settings : Settings) : List (Prog Unit) → List Origin → Prop where
  | nil : Plans settings [] []
  | run {q : QueuedRun} {tasks : List (Prog Unit)} {os : List Origin} (sound : q.IsSound)
      (rest : Plans settings tasks os) :
      Plans settings (Dispatch.background settings q :: tasks) (q.origin :: os)
  | aside {m : Prog Unit} {tasks : List (Prog Unit)} {os : List Origin} (aside : m.IsAside)
      (rest : Plans settings tasks os) : Plans settings (m :: tasks) os

namespace Plans

variable {settings : Settings} {w : World} {es : List Execution} {os os' : List Origin}
  {tasks tasks' : List (Prog Unit)}

theorem append (h : Plans settings tasks os) (h' : Plans settings tasks' os') :
    Plans settings (tasks ++ tasks') (os ++ os') := by
  induction h with
  | nil => exact h'
  | run sound _ ih => exact .run sound ih
  | aside aside _ ih => exact .aside aside ih

theorem of_asides (h : ∀ m ∈ tasks, m.IsAside) : Plans settings tasks [] := by
  induction tasks with
  | nil => exact .nil
  | cons m tasks ih =>
      exact .aside (h m List.mem_cons_self) (ih fun x hx => h x (List.mem_cons_of_mem m hx))

/-- The work of a queue is to leave executions for the runs that wait in it. -/
theorem of_queue (settings : Settings) (works : List Background)
    (sound : ∀ q ∈ works.filterMap Background.run?, q.IsSound) :
    Plans settings (works.map (·.program settings))
      ((works.filterMap Background.run?).map QueuedRun.origin) := by
  induction works with
  | nil => exact .nil
  | cons work works ih =>
      have rest := ih fun q hq =>
        sound q (((List.sublist_cons_self work works).filterMap Background.run?).mem hq)
      cases work with
      | run q => exact .run (sound q.outline (by simp [Background.run?])) rest
      | delivery job => exact .aside (Deliver.isAside_background settings job) rest

/-- What is taken from the queue where no run waits is aside. -/
theorem takeQueue (settings : Settings) (books : w.Books [] es) :
    (w.takeQueue settings).2.Books [] es ∧
      Plans settings (w.takeQueue settings).1 [] := by
  refine ⟨⟨books.table, rfl, books.issued, books.spared⟩, ?_⟩
  have plans := of_queue settings w.queue (by
    rw [show w.queue.filterMap Background.run? = [] from books.waiting]
    exact fun _ h => nomatch h)
  rwa [show w.queue.filterMap Background.run? = [] from books.waiting] at plans

theorem round (h : Plans settings tasks os) (books : w.Books [] es) :
    ∃ new, (World.round settings tasks w).2.Books [] (es ++ new) ∧
      new.map Execution.origin = os ∧ Plans settings (World.round settings tasks w).1 [] := by
  induction h generalizing w es with
  | nil => exact ⟨[], by simpa [World.round] using books, rfl, .nil⟩
  | @run q tasks os sound _ ih =>
      obtain ⟨w', e, turn, books', he⟩ := run_turn settings sound books
      obtain ⟨taken, begun⟩ := takeQueue settings books'
      obtain ⟨new, books'', origins, plans⟩ := ih taken
      rw [World.round, turn]
      refine ⟨e :: new, ?_, by rw [List.map_cons, he, origins], ?_⟩
      · simpa using books''
      · simpa using begun.append plans
  | @aside m tasks os aside _ ih =>
      obtain ⟨books', left⟩ := aside_turn aside books
      obtain ⟨taken, begun⟩ := takeQueue settings books'
      obtain ⟨new, books'', origins, plans⟩ := ih taken
      refine ⟨new, books'', origins, ?_⟩
      have lefts : Plans settings (m.runTurn w).1.toList [] :=
        of_asides fun x hx => left x (Option.mem_toList.mp hx)
      exact (begun.append lefts).append plans

theorem rounds (fuel : Nat) (h : Plans settings tasks []) (books : w.Books [] es) :
    (World.rounds settings fuel tasks w).Books [] es := by
  induction fuel generalizing tasks w with
  | zero => exact books
  | succ fuel ih =>
      cases tasks with
      | nil => exact books
      | cons m tasks =>
          obtain ⟨new, books', origins, plans⟩ := h.round books
          obtain rfl : new = [] := List.map_eq_nil_iff.mp origins
          rw [List.append_nil] at books'
          exact ih plans books'

/-- The runs are through after the first round. -/
theorem rounds_succ (fuel : Nat) (h : Plans settings tasks os) (books : w.Books [] es) :
    ∃ new, (World.rounds settings (fuel + 1) tasks w).Books [] (es ++ new) ∧
      new.map Execution.origin = os := by
  cases tasks with
  | nil =>
      cases h
      exact ⟨[], by rwa [List.append_nil], rfl⟩
  | cons m tasks =>
      obtain ⟨new, books', origins, plans⟩ := h.round books
      exact ⟨new, plans.rounds fuel books', origins⟩

end Plans

/-- When the background has been carried to its end, there is one more execution for each run that
was waiting, of its origin, behind those that were there. -/
theorem drain_books (settings : Settings) {w : World} {qs : List QueuedRun} {es : List Execution}
    (books : w.Books qs es) (sound : ∀ q ∈ qs, q.IsSound) :
    ∃ new, (w.drain settings).Books [] (es ++ new) ∧
      new.map Execution.origin = qs.map QueuedRun.origin := by
  obtain ⟨table, rfl, issued, spared⟩ := books
  exact (Plans.of_queue settings _ sound).rounds_succ _ ⟨table, rfl, issued, spared⟩

end RecordFlow
