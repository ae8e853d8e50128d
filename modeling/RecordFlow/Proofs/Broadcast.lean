/-
# Broadcast — what the bus is told of runs, against the register

With a bus that takes every event, the bus is told that a run has started
before the run asks for anything else, and it is told of the end of a run once
the register shows that end; `events_mirror_ledger` says so for every run that
is opened from some time on, however all that is under way interleaves.

That the bus is told of every end is more than is true: a run whose end the
store refuses to keep or to count is lost, `refusedCount_untold`.  Where the
store refuses neither, every run that is over has been told of twice.
-/
import RecordFlow.Proofs.Register
import RecordFlow.Proofs.Shutdown

namespace RecordFlow

/-- The status of the runs that an event is about. -/
def RunEvent.status : RunEvent → RunStatus
  | started => .running
  | completed => .completed
  | failed => .failed

theorem Execution.IsShut.ends {e : Execution} (h : e.IsShut) :
    e.ending ≠ .started ∧ e.status = .known e.ending.status := by
  rcases h.status with status | status <;> simp [ending, isCompleted, status, RunEvent.status]

/-- The status with which a run stands in a store. -/
def Store.statusOf (s : Store) (id : RecordId) : Option (ColumnWord RunStatus) :=
  (Keyed.find? RunLine.id id s.runs).map RunLine.status

theorem Followed.statusOf {past : Nat} {memory : Bool} {w : World} {ps : List Course}
    (h : Followed past memory w ps) {e : Execution} (line : e.runLine memory ∈ w.store.runs) :
    w.store.statusOf e.id = some (.ofOpen e.status) :=
  congrArg (Option.map RunLine.status) (find?_of_mem h.once line)

namespace World

/-- There is a bus, and it takes whatever it is told. -/
structure BusTakes (w : World) : Prop where
  connected : w.hasBus = true
  spared : ∀ event : RunEvent, w.Spares ("bus." ++ event.text)

/-- What the bus has been told of a run. -/
def told (w : World) (id : RecordId) : List (RunEvent × Execution) :=
  w.events.filter fun x => x.2.id = id

/-- The bus has been told that a run has started, and no more of it. -/
def HasBegun (w : World) (id : RecordId) : Prop :=
  ∃ e, w.told id = [(.started, e)] ∧ e.status = .known .running

/-- The bus has been told that a run has started, and then once how it has ended: with the status
that the event is about, with which the run stands in the store. -/
def HasEnded (w : World) (id : RecordId) : Prop :=
  ∃ e event e', w.told id = [(.started, e), (event, e')] ∧ e.status = .known .running ∧
    event ≠ .started ∧ e'.status = .known event.status ∧
    w.store.statusOf id = some (.ofOpen (.known event.status))

/-- What the bus is about to be told of a run is that it has started, before anything else; or it
is how the run has ended, which is so in the store already. -/
def IsDue (w : World) (event : RunEvent) (e : Execution) : Prop :=
  e.status = .known event.status ∧
    (event = .started ∧ w.told e.id = [] ∨
      event ≠ .started ∧ w.HasBegun e.id ∧
        w.store.statusOf e.id = some (.ofOpen (.known event.status)))

/-- What may change from outside: nothing of the runs, nor of what the bus was told, and the bus
goes on to take what it is told. -/
structure AmidEvents (w w' : World) : Prop where
  table : w'.store.table = w.store.table
  events : w'.events = w.events
  created : w'.created = w.created
  issued : w.issued ≤ w'.issued
  bus : w.BusTakes → w'.BusTakes

variable {w w' : World} {e : Execution} {event : RunEvent} {id : RecordId}

theorem told_of_events (same : w'.events = w.events) (id : RecordId) : w'.told id = w.told id := by
  rw [told, same, told]

theorem BusTakes.emit (h : w.BusTakes) (event : RunEvent) (e : Execution) :
    w.answer (.emit event e) = (.ok (), { w with events := w.events ++ [(event, e)] }) :=
  answer_of_spared rfl (h.spared event) h.connected rfl

theorem BusTakes.told_emit (h : w.BusTakes) :
    (w.answer (.emit event e)).2.told e.id = w.told e.id ++ [(event, e)] := by
  simp [h.emit, told]

theorem BusTakes.told_emit_of_ne (h : w.BusTakes) (other : e.id ≠ id) :
    (w.answer (.emit event e)).2.told id = w.told id := by
  simp [h.emit, told, other]

/-- A bus goes on to take what it is told. -/
theorem BusTakes.answered (h : w.BusTakes) {r : Request}
    (connected : (w.answer r).2.hasBus = w.hasBus) : (w.answer r).2.BusTakes where
  connected := connected.trans h.connected
  spared event := (h.spared event).answer r

/-- With a bus that takes what it is told, the answers are as the code reckons with. -/
theorem BusTakes.expected (h : w.BusTakes) (r : Request) :
    (coursing false).expects r (w.answer r).1 := by
  refine World.expected ?_ nofun
  rintro event e rfl f
  rw [h.emit]
  exact nofun

end World

/-! ## The tie -/

/-- What the bus has been told of the run that a piece of work has. -/
def Course.Told (w : World) : Course → Prop
  | silent => True
  | opened e => w.told e.id = []
  | going e | closed e | ended e _ | lost e => w.HasBegun e.id
  | told e => ∃ e₀, w.told e.id = [(.started, e₀), (e.ending, e)] ∧ e₀.status = .known .running

namespace Course

variable {w w' : World} {p : Course}

theorem Told.mono (h : p.Told w) (same : ∀ id, p.id? = some id → w'.told id = w.told id) :
    p.Told w' := by
  cases p with
  | silent => trivial
  | opened e => exact (same e.id rfl).trans h
  | going e | closed e | ended e _ | lost e =>
      obtain ⟨e₀, told, running⟩ := h
      exact ⟨e₀, (same e.id rfl).trans told, running⟩
  | told e =>
      obtain ⟨e₀, told, running⟩ := h
      exact ⟨e₀, (same e.id rfl).trans told, running⟩

end Course

/-- The runs that are under way since a number was issued are followed, and the bus has been told of
them, and of no others since, what their phases say. -/
structure Mirrored (past : Nat) (memory : Bool) (w : World) (ps : List Course) : Prop where
  followed : Followed past memory w ps
  bus : w.BusTakes
  tells : ∀ p ∈ ps, p.Told w
  ahead : ∀ x ∈ w.events, ∀ n, x.2.id = .issued n → n ≤ w.issued
  known : ∀ n, past < n → .issued n ∈ w.created ∨ w.told (.issued n) ≠ [] →
    ∃ p ∈ ps, p.id? = some (.issued n)

namespace Mirrored

variable {past : Nat} {memory : Bool} {w w' : World} {front back ps : List Course}
  {p q : Course} {e : Execution} {r : Request} {event : RunEvent} {n : Nat}

/-- The bus is told nothing, and nobody goes on. -/
theorem elsewhere (h : Mirrored past memory w ps) (amid : w.AmidEvents w') :
    Mirrored past memory w' ps where
  followed := h.followed.elsewhere amid.table amid.issued
  bus := amid.bus h.bus
  tells p hp := (h.tells p hp).mono fun id _ => World.told_of_events amid.events id
  ahead x hx n hn := Nat.le_trans (h.ahead x (amid.events ▸ hx) n hn) amid.issued
  known n since there := by
    rw [amid.created, World.told_of_events amid.events] at there
    exact h.known n since there

/-- Work that waited begins, without a run. -/
theorem begun (h : Mirrored past memory w ps) (queue : List Background) :
    Mirrored past memory { w with queue } (ps ++ [.silent]) where
  followed := h.followed.begun queue
  bus := ⟨h.bus.connected, h.bus.spared⟩
  tells p hp := by
    rcases List.mem_append.mp hp with hp | hp
    · exact (h.tells p hp).mono fun _ _ => rfl
    · obtain rfl := List.mem_singleton.mp hp
      trivial
  ahead := h.ahead
  known n since there := by
    obtain ⟨p, hp, has⟩ := h.known n since there
    exact ⟨p, List.mem_append_left _ hp, has⟩

/-- The bus is told nothing while work goes on with the same run. -/
theorem quiet (h : Mirrored past memory w (front ++ p :: back))
    (followed : Followed past memory (w.answer r).2 (front ++ q :: back))
    (same : (w.answer r).2.annals.1 = w.annals.1) (id : q.id? = p.id?)
    (told : p.Told w → q.Told w) : Mirrored past memory (w.answer r).2 (front ++ q :: back) := by
  obtain ⟨events, rest⟩ := Prod.mk.inj same
  obtain ⟨connected, created⟩ := Prod.mk.inj rest
  exact {
    followed
    bus := h.bus.answered connected
    tells := by
      have here := forall_mem_middle.mp h.tells
      have tells := forall_mem_middle.mpr ⟨told here.1, here.2⟩
      exact fun x hx => (tells x hx).mono fun id _ => World.told_of_events events id
    ahead := fun x hx n hn => Nat.le_trans (h.ahead x (events ▸ hx) n hn) (w.issued_le_answer r)
    known := fun n since there => by
      rw [created, World.told_of_events events] at there
      exact exists_mem_middle.mpr
        ((exists_mem_middle.mp (h.known n since there)).imp_left id.trans) }

/-- The bus has been told nothing of a run that is yet to be opened. -/
theorem told_next (h : Mirrored past memory w ps) : w.told (.issued (w.issued + 1)) = [] := by
  refine List.filter_eq_nil_iff.mpr fun x hx same => ?_
  exact Nat.not_succ_le_self _ (h.ahead x hx _ (of_decide_eq_true same))

/-- A run is opened, of which the bus has been told nothing. -/
theorem opened (h : Mirrored past memory w (front ++ .silent :: back)) {e' : Execution}
    (result : (w.answer (.openExecution e)).1 = .ok e')
    (followed : Followed past memory (w.answer (.openExecution e)).2
      (front ++ .opened e' :: back)) :
    Mirrored past memory (w.answer (.openExecution e)).2 (front ++ .opened e' :: back) := by
  have annals := congrArg Prod.fst (w.annals_openExecution e)
  rw [result] at annals
  obtain ⟨events, rest⟩ := Prod.mk.inj annals
  obtain ⟨connected, created⟩ := Prod.mk.inj rest
  have untold : (Course.opened e').Told w := by
    rw [(World.openExecution_ok (Prod.ext result rfl)).1]
    exact h.told_next
  exact {
    followed
    bus := h.bus.answered connected
    tells := by
      have tells := forall_mem_middle.mpr ⟨untold, (forall_mem_middle.mp h.tells).2⟩
      exact fun x hx => (tells x hx).mono fun id _ => World.told_of_events events id
    ahead := fun x hx n hn => Nat.le_trans (h.ahead x (events ▸ hx) n hn) (w.issued_le_answer _)
    known := fun n since there => by
      rw [created, World.told_of_events events, List.mem_append, or_right_comm] at there
      refine exists_mem_middle.mpr ?_
      rcases there with there | new
      · exact .inr ((exists_mem_middle.mp (h.known n since there)).resolve_left nofun)
      · exact .inl (congrArg some (List.mem_singleton.mp new).symm) }

/-- The bus is told of a run by the work that has it. -/
theorem emitted (h : Mirrored past memory w (front ++ p :: back)) (has : p.shown? = some e)
    (followed : Followed past memory (w.answer (.emit event e)).2 (front ++ q :: back))
    (id : q.id? = some e.id) (told : q.Told (w.answer (.emit event e)).2) :
    Mirrored past memory (w.answer (.emit event e)).2 (front ++ q :: back) where
  followed
  bus := h.bus.answered (by rw [h.bus.emit])
  tells := by
    refine forall_mem_middle.mpr ⟨told, fun x hx => ?_⟩
    refine ((forall_mem_middle.mp h.tells).2 x hx).mono fun id same => ?_
    refine h.bus.told_emit_of_ne fun here => (h.followed.alone has).1 x hx ?_
    rw [same, here]
  ahead x hx n hn := by
    rw [h.bus.emit] at hx
    refine Nat.le_trans ?_ (w.issued_le_answer _)
    rcases List.mem_append.mp hx with hx | hx
    · exact h.ahead x hx n hn
    · obtain rfl := List.mem_singleton.mp hx
      obtain ⟨l, hl, same, _⟩ := (forall_mem_middle.mp h.followed.stands).1.line has
      exact h.followed.numbered l hl n (same.trans hn)
  known n since there := by
    have same : q.id? = p.id? := id.trans (congrArg (Option.map Execution.id) has).symm
    by_cases here : e.id = .issued n
    · exact ⟨q, List.mem_append_right _ List.mem_cons_self, id.trans (congrArg some here)⟩
    · rw [h.bus.told_emit_of_ne here, h.bus.emit] at there
      exact exists_mem_middle.mpr
        ((exists_mem_middle.mp (h.known n since there)).imp_left same.trans)

/-- No answer to work that keeps to the code breaks the tie. -/
theorem answered (h : Mirrored past memory w (front ++ p :: back))
    (allowed : (coursing false).may p r) :
    Mirrored past memory (w.answer r).2
      (front ++ (coursing false).next p r (w.answer r).1 :: back) := by
  have followed := h.followed.answered allowed (h.bus.expected r)
  have here := (forall_mem_middle.mp h.tells).1
  cases allowed with
  | plain plain rests =>
      rw [Course.next_of_plain plain] at followed ⊢
      exact h.quiet followed
        (congrArg Prod.fst (w.annals_answer (Request.not_notable_of_plain plain))) rfl id
  | @opens e running =>
      cases result : (w.answer (.openExecution e)).1 with
      | ok e' =>
          rw [result] at followed
          exact h.opened result followed
      | error f =>
          have same := congrArg Prod.fst (w.annals_openExecution e)
          rw [result] at followed same
          exact h.quiet followed same rfl id
  | @starts e =>
      have running := (forall_mem_middle.mp h.followed.stands).1.1
      rw [congrArg Prod.fst (h.bus.emit .started e)] at followed ⊢
      refine h.emitted rfl followed rfl ⟨_, ?_, running⟩
      rw [h.bus.told_emit, here, List.nil_append]
  | @shows e e' follows running =>
      have begun : w.HasBegun e'.id := follows.id.symm ▸ here
      rw [Course.next_shown running] at followed ⊢
      exact h.quiet followed (congrArg Prod.fst (w.annals_answer rfl)) (congrArg some follows.id)
        fun _ => begun
  | @closes e e' follows shut =>
      have begun : w.HasBegun e'.id := follows.id.symm ▸ here
      rw [Course.next_closed shut] at followed ⊢
      exact h.quiet followed (congrArg Prod.fst (w.annals_answer rfl)) (congrArg some follows.id)
        fun _ => begun
  | @finishes e =>
      have same := congrArg Prod.fst (w.annals_answer (r := .finishExecution e) rfl)
      cases finished : (w.answer (.finishExecution e)).1 <;> rw [finished] at followed <;>
        exact h.quiet followed same rfl id
  | @counts e t completedAt =>
      have same := w.annals_recordRun e.workflowId t
      cases counted : (w.answer (.recordRun e.workflowId t)).1 <;> rw [counted] at followed <;>
        exact h.quiet followed same rfl id
  | @tells e counted sure =>
      obtain ⟨e₀, told, running⟩ := here
      rw [congrArg Prod.fst (h.bus.emit e.ending e)] at followed ⊢
      refine h.emitted rfl followed rfl ⟨e₀, ?_, running⟩
      rw [h.bus.told_emit, told]
      rfl

theorem attends (settings : Settings) : System.Attends (coursing false) Course.isEnd
    (fun _ _ => True) settings World.AmidEvents (Mirrored past memory) where
  answered _ _ _ _ r tied allowed := ⟨tied.bus.expected r, tied.answered allowed⟩
  suited _ _ _ _ _ _ := trivial
  begun _ _ _ work _ tied _ := ⟨.silent, trivial, Course.leads_work settings work, tied.begun _⟩
  changed _ _ _ amid tied := tied.elsewhere amid

/-! ### What it says -/

/-- A run that is told of to its end stands with that end in the store. -/
theorem hasEnded (h : Mirrored past memory w ps) (there : .told e ∈ ps) : w.HasEnded e.id := by
  obtain ⟨e₀, told, running⟩ := h.tells _ there
  obtain ⟨shut, line⟩ := h.followed.stands _ there
  have ends := shut.ends
  exact ⟨e₀, e.ending, e, told, running, ends.1, ends.2, ends.2 ▸ h.followed.statusOf line⟩

/-- Of a run that is opened later the bus has been told nothing, the start, or all. -/
theorem heard (h : Mirrored past memory w ps) (later : past < n) :
    w.told (.issued n) = [] ∨ w.HasBegun (.issued n) ∨ w.HasEnded (.issued n) := by
  by_cases none : w.told (.issued n) = []
  · exact .inl none
  obtain ⟨p, hp, has⟩ := h.known n later (.inr none)
  have tells := h.tells p hp
  cases p with
  | silent => cases has
  | opened e => exact .inl (Option.some.inj has ▸ tells)
  | going e | closed e | ended e _ | lost e => exact .inr (.inl (Option.some.inj has ▸ tells))
  | told e => exact .inr (.inr (Option.some.inj has ▸ h.hasEnded hp))

/-- Work with a run of which the bus has been told nothing is about to tell it of the start. -/
theorem about_to_start (h : Mirrored past memory w ps) (hp : p ∈ ps) {m : Prog Unit}
    (leads : m.Leads (coursing false) (fun _ => Course.isEnd) p) {id : RecordId}
    (pursues : m.Pursues id) (none : w.told id = []) :
    ∃ e rest, m = .call (.emit .started e) rest ∧ e.id = id := by
  obtain ⟨e, owed, rfl⟩ := Course.of_pursues leads pursues
  have tells := h.tells p hp
  cases p with
  | silent | told | lost => cases owed
  | opened e' =>
      obtain rfl := Option.some.inj owed
      obtain ⟨rest, rfl⟩ := Course.starts_of_opened leads
      exact ⟨e', rest, rfl, rfl⟩
  | going e' | closed e' | ended e' _ =>
      obtain rfl := Option.some.inj owed
      obtain ⟨e₀, told, _⟩ := tells
      rw [none] at told
      cases told

/-- What the bus is about to be told is due. -/
theorem isDue (h : Mirrored past memory w ps) (hp : p ∈ ps)
    (allowed : (coursing false).may p (.emit event e)) : w.IsDue event e := by
  have tells := h.tells p hp
  have stands := h.followed.stands p hp
  cases allowed with
  | plain plain rests => cases plain
  | starts => exact ⟨stands.1, .inl ⟨rfl, tells⟩⟩
  | tells sure =>
      have ends := stands.1.ends
      exact ⟨ends.2, .inr ⟨ends.1, tells, ends.2 ▸ h.followed.statusOf stands.2⟩⟩

/-- A run that is over without being lost has been told of to its end. -/
theorem told_out (h : Mirrored past memory w ps) (later : past < n)
    (created : .issued n ∈ w.created) (done : ∀ p ∈ ps, ∀ e, p.owed? = some e → e.id ≠ .issued n)
    (kept : ∀ p ∈ ps, ∀ e, p = .lost e → e.id ≠ .issued n) : w.HasEnded (.issued n) := by
  obtain ⟨p, hp, has⟩ := h.known n later (.inl created)
  cases p with
  | silent => cases has
  | opened e | going e | closed e | ended e _ =>
      exact absurd (Option.some.inj has) (done _ hp e rfl)
  | lost e => exact absurd (Option.some.inj has) (kept _ hp e rfl)
  | told e => exact Option.some.inj has ▸ h.hasEnded hp

end Mirrored

/-! ## Systems -/

namespace System

/-- Nothing is under way yet, and the bus, which takes what it is told, has heard of no run that is
yet to be opened. -/
structure IsUntold (settings : Settings) (s : System Unit) : Prop extends s.IsRested settings where
  bus : s.world.BusTakes
  ahead : ∀ x ∈ s.world.events, ∀ n, x.2.id = .issued n → n ≤ s.world.issued
  noted : ∀ n, .issued n ∈ s.world.created → n ≤ s.world.issued

variable {settings : Settings} {start s : System Unit} {n : Nat}

theorem IsUntold.mirrored (h : start.IsUntold settings) (k : Nat) :
    Mirrored start.world.issued start.world.store.isMemory start.world
      (List.replicate k .silent) where
  followed := h.followed k
  bus := h.bus
  tells p hp := by
    obtain rfl := List.eq_of_mem_replicate hp
    trivial
  ahead := h.ahead
  known n later there := by
    refine absurd later (Nat.not_lt.mpr ?_)
    rcases there with created | told
    · exact h.noted n created
    · obtain ⟨x, hx⟩ := List.exists_mem_of_ne_nil _ told
      obtain ⟨hx, same⟩ := List.mem_filter.mp hx
      exact h.ahead x hx n (of_decide_eq_true same)

/-- Where the store refuses neither the end of a run nor its count, the run is not lost. -/
theorem IsUntold.kept (h : start.IsUntold settings)
    (reaches : ReachesWithout (Refuses Request.isSettling (·.Pursues (.issued n))) settings
      World.AmidEvents start s) :
    Attended (coursing false) Course.isEnd (fun _ _ => True) (fun w ps =>
      Mirrored start.world.issued start.world.store.isMemory w ps ∧
        ∀ p ∈ ps, ∀ e, p = .lost e → e.id ≠ .issued n) s := by
  have attends : Attends (coursing false) Course.isEnd (fun _ _ => True) settings
      World.AmidEvents (Mirrored start.world.issued start.world.store.isMemory) :=
    Mirrored.attends settings
  refine Attended.of_reachesWithout ?_ ?_ ?_ reaches (h.attended ⟨h.mirrored _, ?_⟩)
  · intro w front p back r rest tied leads taken
    obtain ⟨expected, mirrored⟩ := attends.answered w front p back r tied.1 leads.1
    obtain ⟨_, others⟩ := forall_mem_middle.mp tied.2
    refine ⟨expected, mirrored, forall_mem_middle.mpr ⟨?_, others⟩⟩
    intro e lost same
    rcases Course.lost_of_next leads.1 lost with already | ⟨owed, settling, f, refused⟩
    · exact tied.2 p (List.mem_append_right _ List.mem_cons_self) e already same
    · exact taken settling (same ▸ Course.pursues leads owed) f refused
  · intro w ps before work after tied queued
    refine ⟨.silent, Course.leads_work settings work, tied.1.begun _, ?_⟩
    intro p hp e lost
    rcases List.mem_append.mp hp with hp | hp
    · exact tied.2 p hp e lost
    · obtain rfl := List.mem_singleton.mp hp
      cases lost
  · intro w w' ps amid tied
    exact ⟨attends.changed w w' ps amid tied.1, tied.2⟩
  · intro p hp e lost
    obtain rfl := List.eq_of_mem_replicate hp
    cases lost

/-- However runs interleave, with a bus that takes what it is told and for every run that is opened
from some time on:

* the bus has been told nothing of it, or that it has started, or that and once how it has ended,
  each time with the status that the event is about, and with the end as it stands in the store;
* until it is told of the start, the run asks for nothing else;
* it is about to be told what is due: the start first, and the end once it stands in the store;
* and where the store refuses neither to keep the end of the run nor to count it, it has been told
  of the end of every run that is created and no longer in progress. -/
theorem events_mirror_ledger (untold : start.IsUntold settings)
    (reachable : Reachable settings World.AmidEvents start s) (later : start.world.issued < n) :
    (s.world.told (.issued n) = [] ∨ s.world.HasBegun (.issued n) ∨ s.world.HasEnded (.issued n)) ∧
      (s.world.told (.issued n) = [] → ∀ m ∈ s.programs, m.Pursues (.issued n) →
        ∃ e rest, m = .call (.emit .started e) rest ∧ e.id = .issued n) ∧
      (∀ m ∈ s.programs, ∀ event e rest, m = .call (.emit event e) rest →
        s.world.IsDue event e) ∧
      (ReachesWithout (Refuses Request.isSettling (·.Pursues (.issued n))) settings
          World.AmidEvents start s →
        .issued n ∈ s.world.created → ¬ s.Pursues (.issued n) → s.world.HasEnded (.issued n)) := by
  have attended := Attended.of_reachable (Mirrored.attends settings) reachable
    (untold.attended (untold.mirrored _))
  obtain ⟨ps, mirrored, phases, _⟩ := attended.programs
  refine ⟨mirrored.heard later, ?_, ?_, ?_⟩
  · intro none m hm pursues
    obtain ⟨p, hp, leads⟩ := phases m hm
    exact mirrored.about_to_start hp leads pursues none
  · rintro m hm event e rest rfl
    obtain ⟨p, hp, leads⟩ := phases _ hm
    exact mirrored.isDue hp leads.1
  · intro reaches created gone
    obtain ⟨ps, ⟨mirrored, kept⟩, _, programs⟩ := (untold.kept reaches).programs
    refine mirrored.told_out later created ?_ kept
    intro p hp e owed same
    obtain ⟨m, hm, leads⟩ := programs p hp
    exact gone ⟨m, hm, same ▸ Course.pursues leads owed⟩

/-- The greeting is run by hand for the new deal. -/
def greetsByHand : Errand := .call (.run ⟨3⟩ (.known .manual) newDeal none)

/-- A bus is connected, and a greeting is to be run by hand. -/
def greetedAloud (workflow : Filed Workflow) (faults : List Fault) : System Unit where
  world := { store := .memory { workflows := [workflow] }, hasBus := true, faults }
  calls := [greetsByHand.program {}]
  tasks := []

variable {workflow : Filed Workflow} {faults : List Fault}

theorem greetedAloud_isRested : (greetedAloud workflow faults).IsRested {} where
  calls _ hc := ⟨greetsByHand, List.mem_singleton.mp hc⟩
  tasks := rfl
  once := List.nodup_nil
  numbered _ there := nomatch there

theorem greetedAloud_isUntold
    (spared : ∀ event : RunEvent, "bus." ++ event.text ∉ faults.map Fault.site) :
    (greetedAloud workflow faults).IsUntold {} where
  toIsRested := greetedAloud_isRested
  bus := ⟨rfl, spared⟩
  ahead _ there := nomatch there
  noted _ there := nomatch there

/-- The run by hand is let go to its end. -/
def heardOut (workflow : Filed Workflow) (faults : List Fault) : System Unit where
  world := ((greetsByHand.program {}).run (greetedAloud workflow faults).world).2
  calls := [Prog.ofExcept ((greetsByHand.program {}).run (greetedAloud workflow faults).world).1]
  tasks := []

theorem greetsByHand_isFree (w : World) : (greetsByHand.program {}).isFree w = true :=
  (Passage.apart_errand {} greetsByHand).isFree (fun _ plain w => w.isReady_of_plain plain) w

theorem heardOut_over (id : RecordId) : ¬ (heardOut workflow faults).Pursues id := by
  rintro ⟨m, hm, pursues⟩
  obtain rfl := List.mem_singleton.mp hm
  exact Prog.not_pursues_ofExcept _ pursues

/-- The bus has heard of the run of the greeting that it has started and that it has ended. -/
theorem greetedAloud_heardOut : ∃ s, ReachesWithout (Refuses Request.isSettling
      (·.Pursues (.issued 1))) {} World.AmidEvents (greetedAloud greeting []) s ∧
    RecordId.issued 1 ∈ s.world.created ∧ ¬ s.Pursues (.issued 1) ∧
      s.world.HasEnded (.issued 1) := by
  have untold : (greetedAloud greeting []).IsUntold {} :=
    greetedAloud_isUntold fun _ => List.not_mem_nil
  have reaches : ReachesWithout (Refuses Request.isSettling (·.Pursues (.issued 1))) {}
      World.AmidEvents (greetedAloud greeting []) (heardOut greeting []) :=
    ReachesWithout.runCall [] [] .refl (by decide +kernel) (greetsByHand_isFree _)
  have created : RecordId.issued 1 ∈ (heardOut greeting []).world.created := by decide +kernel
  have gone : ¬ (heardOut greeting []).Pursues (.issued 1) := heardOut_over _
  obtain ⟨_, _, _, ended⟩ := events_mirror_ledger untold reaches.reachable Nat.one_pos
  exact ⟨_, reaches, created, gone, ended reaches created gone⟩

/-- Runs are not counted any more. -/
def uncounted : Fault :=
  { site := "store.record_workflow_run", failure := .reported "OSError" "full" }

/-- With a bus that takes what it is told, a run has ended and stands as completed, and the bus has
been told only that it has started: its count was refused. -/
theorem refusedCount_untold : (greetedAloud greeting [uncounted]).IsUntold {} ∧
    ∃ s, Reachable {} World.AmidEvents (greetedAloud greeting [uncounted]) s ∧
      RecordId.issued 1 ∈ s.world.created ∧ ¬ s.Pursues (.issued 1) ∧
      s.world.store.statusOf (.issued 1) = some (.ofOpen (.known .completed)) ∧
      (s.world.told (.issued 1)).map Prod.fst = [.started] ∧ ¬ s.world.HasEnded (.issued 1) := by
  have reached : Reachable {} World.AmidEvents (greetedAloud greeting [uncounted])
      (heardOut greeting [uncounted]) := Reachable.runCall [] [] .refl (greetsByHand_isFree _)
  have once : ((heardOut greeting [uncounted]).world.told (.issued 1)).map Prod.fst
      = [.started] := by decide +kernel
  have spared : ∀ event : RunEvent, "bus." ++ event.text ∉ [uncounted].map Fault.site := by
    intro event
    cases event <;> decide
  refine ⟨greetedAloud_isUntold spared, _, reached, by decide +kernel, heardOut_over _,
    by decide +kernel, once, ?_⟩
  rintro ⟨_, _, _, told, _⟩
  rw [told] at once
  cases once

end System

end RecordFlow
