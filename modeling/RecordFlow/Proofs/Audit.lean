/-
# Audit — the entries of the memory store in every state

Dispatches, runs that are asked for by hand and the background are under way
together, in any interleaving.  Whatever state they come to, every entry is
sound; an entry of a run that has ended is never changed and none is lost; and
where no run is in progress no entry is under way.  This rests on one
invariant, `Audited`: each entry that is under way is held by one piece of
work, in the phase that the entry shows.

The store keeps everything in memory, the bus takes what it is told, and
whatever may fail leaves something to record.
-/
import Mathlib.Data.List.Nodup
import RecordFlow.Proofs.Entries
import RecordFlow.Proofs.Holders
import RecordFlow.Proofs.RunOnce

namespace RecordFlow

/-- The entries of a store that keeps everything in memory. -/
def World.entries (w : World) : List Execution :=
  match w.store with
  | .memory m => m.executions
  | .relational _ => []

/-- What the audit takes for granted: everything is kept in memory, a failure has a name or a
message, and the bus takes it that a run has started. -/
structure World.IsPlain (w : World) : Prop where
  memory : w.store.isMemory = true
  words : w.HasWords
  bus : w.Spares "bus.execution.started"

/-- What may happen to a world besides: nothing to the entries, and nothing to what is taken for
granted. -/
structure World.Besides (w w' : World) : Prop where
  table : w'.store.table = w.store.table
  issued : w.issued ≤ w'.issued
  plain : w.IsPlain → w'.IsPlain

/-- An entry is found again under its identifier, and as it was if its run had ended. -/
def Execution.StaysIn (es : List Execution) (e : Execution) : Prop :=
  ∃ e' ∈ es, e'.id = e.id ∧ (e.isFinished = true → e' = e)

namespace Pen

/-- The identifier of the entry that a piece of work has. -/
def writing? (p : Pen) : Option RecordId := p.entry?.map Execution.id

/-- The entries show what a phase says. -/
def Agrees (es : List Execution) : Pen → Prop
  | going e => e ∈ es ∧ e.IsGoing
  | closed e => e ∈ es
  | _ => True

end Pen

/-- Each entry is sound, and held by one piece of work while it is under way; entries that were
there before are there still. -/
structure Audited (past es : List Execution) (issued : Nat) (ps : List Pen) : Prop where
  once : (es.map Execution.id).Nodup
  issued : ∀ e ∈ es, ∀ n, e.id = .issued n → n ≤ issued
  sound : ∀ e ∈ es, e.IsSound
  agrees : ∀ p ∈ ps, p.Agrees es
  held : ∀ e ∈ es, e.isFinished = false → .going e ∈ ps
  apart : (ps.filterMap Pen.writing?).Nodup
  past : ∀ e ∈ past, e.StaysIn es

/-! ## Entries by their identifiers -/

namespace Pen

theorem Agrees.mono {es es' : List Execution} {p : Pen} (h : p.Agrees es)
    (stays : ∀ e ∈ es, p.writing? = some e.id → e ∈ es') : p.Agrees es' := by
  cases p with
  | going e => exact ⟨stays e h.1 rfl, h.2⟩
  | closed e => exact stays e h rfl
  | _ => trivial

end Pen

namespace Audited

variable {past es : List Execution} {issued : Nat} {before after ps : List Pen} {e e' : Execution}

/-- What an audit tells of who has which entry in hand. -/
theorem holders (h : Audited past es issued ps) : Holders Pen.entry? es issued ps where
  once := h.once
  issued := h.issued
  there p hp e has := by
    have agrees := h.agrees p hp
    cases p with
    | going x => exact Option.some.inj has ▸ agrees.1
    | closed x => exact Option.some.inj has ▸ agrees
    | _ => cases has
  apart := h.apart

/-- Where nothing is written before, the past is that of the audit. -/
theorem remember (h : Audited past es issued ps) : Audited es es issued ps :=
  { h with past := fun e he => ⟨e, he, rfl, fun _ => rfl⟩ }

theorem later {issued' : Nat} (h : Audited past es issued ps) (later : issued ≤ issued') :
    Audited past es issued' ps :=
  { h with issued := fun e he n hn => Nat.le_trans (h.issued e he n hn) later }

/-- Work that has no entry begins. -/
theorem begun {p : Pen} (h : Audited past es issued ps) (none : p.entry? = none) :
    Audited past es issued (ps ++ [p]) where
  once := h.once
  issued := h.issued
  sound := h.sound
  agrees q hq := by
    rcases List.mem_append.mp hq with hq | hq
    · exact h.agrees q hq
    · obtain rfl := List.mem_singleton.mp hq
      cases q with
      | going e => cases none
      | closed e => cases none
      | _ => trivial
  held e he under := List.mem_append_left _ (h.held e he under)
  apart := (h.holders.begun none).apart
  past := h.past

/-- A new entry is under an identifier that is issued next. -/
theorem opened (h : Audited past es issued (before ++ .empty :: after)) (going : e.IsGoing)
    (id : e.id = .issued (issued + 1)) :
    Audited past (es ++ [e]) (issued + 1) (before ++ .going e :: after) := by
  have holders : Holders Pen.entry? (es ++ [e]) (issued + 1) (before ++ .going e :: after) :=
    h.holders.opened id rfl
  exact {
    once := holders.once
    issued := holders.issued
    sound := by
      intro x hx
      rcases List.mem_append.mp hx with hx | hx
      · exact h.sound x hx
      · obtain rfl := List.mem_singleton.mp hx
        exact going.sound
    agrees := by
      refine forall_mem_middle.mpr
        ⟨⟨List.mem_append_right _ (List.mem_singleton_self e), going⟩, ?_⟩
      intro q hq
      exact ((forall_mem_middle.mp h.agrees).2 q hq).mono fun x hx _ => List.mem_append_left _ hx
    held := by
      intro x hx under
      rcases List.mem_append.mp hx with hx | hx
      · have there := h.held x hx under
        simp only [List.mem_append, List.mem_cons, reduceCtorEq, false_or] at there ⊢
        exact there.imp_right .inr
      · obtain rfl := List.mem_singleton.mp hx
        exact List.mem_append_right _ List.mem_cons_self
    apart := holders.apart
    past := by
      intro x hx
      obtain ⟨x', hx', stays⟩ := h.past x hx
      exact ⟨x', List.mem_append_left _ hx', stays⟩ }

/-- An entry that is under way is shown as it goes on, or closed. -/
theorem shown {p : Pen} (h : Audited past es issued (before ++ .going e :: after))
    (id : e'.id = e.id) (sound : e'.IsSound) (entry : p.entry? = some e')
    (agrees : ∀ es, e' ∈ es → p.Agrees es) (held : e'.isFinished = false → p = .going e') :
    Audited past (Keyed.modify Execution.id e'.id (fun _ => e') es) issued
      (before ++ p :: after) := by
  obtain ⟨⟨there, going⟩, others⟩ := forall_mem_middle.mp h.agrees
  have alone := h.holders.alone rfl
  have holders := h.holders.shown rfl id entry
  have shows : e' ∈ Keyed.modify Execution.id e'.id (fun _ => e') es :=
    id ▸ Keyed.mem_modify_self there
  have rest {x : Execution} (hx : x ∈ es) (other : x.id ≠ e.id) :
      x ∈ Keyed.modify Execution.id e'.id (fun _ => e') es :=
    Keyed.mem_modify_of_ne hx (id ▸ other)
  exact {
    once := holders.once
    issued := holders.issued
    sound := by
      intro x hx
      rcases Keyed.mem_modify hx with rfl | ⟨hx, _⟩
      · exact sound
      · exact h.sound x hx
    agrees := by
      refine forall_mem_middle.mpr ⟨agrees _ shows, ?_⟩
      intro q hq
      refine (others q hq).mono fun x hx entry => rest hx fun same => ?_
      exact alone q hq (same ▸ entry)
    held := by
      intro x hx under
      rcases Keyed.mem_modify hx with rfl | ⟨hx, other⟩
      · rw [held under]
        exact List.mem_append_right _ List.mem_cons_self
      · have there := h.held x hx under
        have ne : (Pen.going x) ≠ .going e := fun same => other (by rw [Pen.going.inj same, id])
        simp only [List.mem_append, List.mem_cons, ne, false_or] at there ⊢
        exact there.imp_right .inr
    apart := holders.apart
    past := by
      intro x hx
      obtain ⟨x', hx', same, stays⟩ := h.past x hx
      by_cases here : x'.id = e.id
      · refine ⟨e', shows, id.trans (here.symm.trans same), fun finished => ?_⟩
        -- what was closed before is not the entry that is under way now
        obtain rfl := List.inj_on_of_nodup_map h.once hx' there here
        obtain rfl := stays finished
        rw [going.not_finished] at finished
        cases finished
      · exact ⟨x', rest hx' here, same, stays⟩ }

end Audited

/-! ## Worlds and their entries -/

namespace World

variable {w w' : World}

theorem entries_of_memory {m : MemoryStore} (h : w.store = .memory m) :
    w.entries = m.executions := by
  rw [entries, h]

theorem entries_of_table (same : w'.store.table = w.store.table) : w'.entries = w.entries := by
  unfold entries
  cases hs : w.store with
  | memory m =>
      rw [hs] at same
      obtain ⟨m', hm', executions⟩ := Store.memory_of_table same
      rw [hm']
      exact executions
  | relational r =>
      cases hs' : w'.store with
      | memory m' =>
          rw [hs, hs'] at same
          cases same
      | relational r' => rfl

/-- A request that writes no entry leaves the entries as they are, and issues no identifier. -/
theorem plain_answer (w : World) {r : Request} (plain : r.writesEntry = false) :
    (w.answer r).2.entries = w.entries ∧ (w.answer r).2.issued = w.issued :=
  (w.table_answer plain).imp_left entries_of_table

section Memory

variable (memory : w.store.isMemory = true) (e : Execution)
include memory

/-- An entry is opened under the identifier that is issued next, unless the call fails before. -/
theorem entries_openExecution :
    (∃ f faults, w.answer (.openExecution e) = (.error f, { w with faults })) ∨
      ∃ e', e' = { e with id := .issued (w.issued + 1) } ∧
        (w.answer (.openExecution e)).1 = .ok e' ∧
        (w.answer (.openExecution e)).2.entries = Keyed.put Execution.id e' w.entries ∧
        (w.answer (.openExecution e)).2.issued = w.issued + 1 := by
  obtain ⟨m, hm⟩ := Store.memory_of_isMemory memory
  rcases w.answer_cases (.openExecution e) with ⟨no, _⟩ | ⟨f, faults, ha⟩ | ⟨faults, ha⟩
  · cases no
  · exact .inl ⟨f, faults, ha⟩
  · refine .inr ⟨_, rfl, ?_⟩
    rw [ha, entries_of_memory hm]
    simp only [perform, storing, hm]
    exact ⟨rfl, rfl, rfl⟩

/-- What is shown of an entry takes its place. -/
theorem entries_publishExecution :
    (w.answer (.publishExecution e)).2.entries
      = Keyed.modify Execution.id e.id (fun _ => e) w.entries := by
  obtain ⟨m, hm⟩ := Store.memory_of_isMemory memory
  show ({ w with store := w.store.publishExecution e } : World).entries = _
  rw [entries_of_memory hm, hm]
  rfl

/-- An entry that has ended is written, unless the call fails before. -/
theorem entries_finishExecution :
    (w.answer (.finishExecution e)).2.issued = w.issued ∧
      ((w.answer (.finishExecution e)).2.entries = w.entries ∨
        (w.answer (.finishExecution e)).2.entries = Keyed.put Execution.id e w.entries) := by
  obtain ⟨m, hm⟩ := Store.memory_of_isMemory memory
  rcases w.answer_cases (.finishExecution e) with ⟨no, _⟩ | ⟨f, faults, ha⟩ | ⟨faults, ha⟩
  · cases no
  · rw [ha]
    exact ⟨rfl, .inl rfl⟩
  · rw [ha, entries_of_memory hm]
    simp only [perform, storing, hm]
    exact ⟨rfl, .inr rfl⟩

end Memory

namespace IsPlain

theorem answer (h : w.IsPlain) (r : Request) : (w.answer r).2.IsPlain :=
  ⟨(isMemory_answer w r).trans h.memory, h.words.answer r, h.bus.answer r⟩

/-- What is answered over the memory store, with a bus that takes what it is told. -/
theorem expected (h : w.IsPlain) (r : Request) : keeping.expects r (w.answer r).1 := by
  have told (e : Execution) : ∃ w', w.answer (.emit .started e) = (.ok (), w') := by
    cases connected : w.hasBus with
    | true => exact ⟨_, answer_of_spared rfl h.bus connected rfl⟩
    | false => exact ⟨w, by simp [World.answer, isAddressed, connected, unaddressed]⟩
  cases answered : w.answer r with
  | mk x w' =>
      cases x with
      | error f =>
          refine ⟨worded_answer h.words h.memory r f (congrArg Prod.fst answered), ?_⟩
          rw [← Bool.not_eq_true]
          intro sure
          cases r with
          | now => cases answered
          | log entry => cases answered
          | publishExecution e => cases answered
          | emit event e =>
              cases event with
              | started =>
                  obtain ⟨w'', ok⟩ := told e
                  cases answered.symm.trans ok
              | _ => cases sure
          | _ => cases sure
      | ok a =>
          cases r with
          | openExecution e => exact ⟨_, (openExecution_ok answered).1⟩
          | _ => trivial

end IsPlain
end World

namespace Audited

variable {past : List Execution} {w : World} {before after : List Pen} {p : Pen}

/-- An entry is opened, unless the call fails before. -/
theorem openEntry (h : Audited past w.entries w.issued (before ++ .empty :: after))
    (memory : w.store.isMemory = true) {e : Execution} (going : e.IsGoing) :
    Audited past (w.answer (.openExecution e)).2.entries (w.answer (.openExecution e)).2.issued
      (before ++ keeping.next .empty (.openExecution e) (w.answer (.openExecution e)).1
        :: after) := by
  rcases World.entries_openExecution memory e with ⟨f, faults, ha⟩ | ⟨e', id, ok, entries, issued⟩
  · rw [ha]
    exact h
  · have fresh : e'.id ∉ w.entries.map Execution.id := by
      rw [id]
      exact h.holders.fresh
    have opens := h.opened (e := e') (id ▸ { going with }) (congrArg Execution.id id)
    rwa [ok, entries, issued, put_of_fresh fresh]

/-- A closed entry is written once more, as it stands. -/
theorem finishEntry {e : Execution}
    (h : Audited past w.entries w.issued (before ++ .closed e :: after))
    (memory : w.store.isMemory = true) :
    Audited past (w.answer (.finishExecution e)).2.entries
      (w.answer (.finishExecution e)).2.issued
      (before ++ keeping.next (.closed e) (.finishExecution e)
        (w.answer (.finishExecution e)).1 :: after) := by
  have same : Keyed.put Execution.id e w.entries = w.entries :=
    Keyed.put_self h.once (forall_mem_middle.mp h.agrees).1
  obtain ⟨issued, entries | entries⟩ := World.entries_finishExecution memory e
  · rwa [issued, entries]
  · rwa [issued, entries, same]

/-- No answer to work that keeps to the code breaks the audit. -/
theorem answered (h : Audited past w.entries w.issued (before ++ p :: after)) (plain : w.IsPlain)
    {r : Request} (allowed : keeping.may p r) :
    Audited past (w.answer r).2.entries (w.answer r).2.issued
      (before ++ keeping.next p r (w.answer r).1 :: after) := by
  by_cases writes : r.writesEntry = false
  · obtain ⟨entries, issued⟩ := w.plain_answer writes
    rw [entries, issued, show keeping.next p r _ = p from Keeping.next_of_plain writes _]
    exact h
  · cases p with
    | aside => exact absurd allowed writes
    | empty =>
        obtain ⟨e, rfl, going⟩ := allowed.resolve_left writes
        exact h.openEntry plain.memory going
    | going e =>
        obtain ⟨e', rfl, id, ended⟩ := allowed.resolve_left writes
        rw [World.entries_publishExecution plain.memory]
        rcases ended with going | closed
        · rw [Keeping.next_going _ going]
          exact h.shown id going.sound rfl (fun _ there => ⟨there, going⟩) fun _ => rfl
        · rw [Keeping.next_closed _ closed]
          refine h.shown id closed.sound rfl (fun _ there => there) fun under => ?_
          rw [closed.finished] at under
          cases under
    | closed e =>
        obtain rfl := allowed.resolve_left writes
        exact h.finishEntry plain.memory

end Audited

/-- What ties a world to the phases of the work that is under way in it. -/
def Kept (past : List Execution) (w : World) (ps : List Pen) : Prop :=
  w.IsPlain ∧ Audited past w.entries w.issued ps

theorem attends_keeping (settings : Settings) (past : List Execution) :
    System.Attends keeping Pen.isEnd Pen.suits settings World.Besides (Kept past) where
  answered w before p after r kept allowed :=
    ⟨kept.1.expected r, kept.1.answer r, kept.2.answered kept.1 allowed⟩
  suited p r x work := Keeping.suits_next x
  begun w ps before work after kept _ := by
    refine ⟨Keeping.begins work, Keeping.suits_begins work, Keeping.leads_work settings work,
      ⟨kept.1.memory, kept.1.words, kept.1.bus⟩, kept.2.begun ?_⟩
    cases work <;> rfl
  changed w w' ps besides kept := by
    refine ⟨besides.plain kept.1, ?_⟩
    rw [World.entries_of_table besides.table]
    exact kept.2.later besides.issued

/-! ## Where no run is in progress -/

/-- What is left of a program after some answers. -/
inductive Prog.Leaves {α : Type} (m : Prog α) : Prog α → Prop where
  | whole : Leaves m m
  | answered {r : Request} {rest : Except Failure r.Answer → Prog α}
      (left : Leaves m (.call r rest))
      (x : Except Failure r.Answer) : Leaves m (rest x)

/-- No run is in progress: each call has ended, has yet to begin or is a dispatch that is under
way, and each run in the background that has begun has ended. -/
structure System.HasNoRun (settings : Settings) (s : System (List Uid ⊕ RecordId)) : Prop where
  calls : ∀ c ∈ s.calls, c.isOver = true ∨ (∃ call : Call, c = call.program settings) ∨
    ∃ kind context, (Call.program settings (.dispatch kind context)).Leaves c
  tasks : ∀ t ∈ s.tasks, t.work.isRun = true → t.left.isOver = true

theorem Prog.Only.leaves {α : Type} {allowed : Request → Prop} {m m' : Prog α}
    (h : m.Only allowed) (leaves : m.Leaves m') : m'.Only allowed := by
  induction leaves with
  | whole => exact h
  | answered _ x ih => exact ih.2 x

namespace Keeping

variable {α : Type} {e : Execution}

/-- With some answer one has to reckon. -/
theorem exists_expected (r : Request) : ∃ x, keeping.expects r x := by
  cases sure : sure r with
  | false => exact ⟨.error .noSuchOperation, Failure.report_ne_empty trivial, sure⟩
  | true =>
      cases r with
      | now => exact ⟨.ok default, trivial⟩
      | log entry => exact ⟨.ok (), trivial⟩
      | publishExecution e => exact ⟨.ok (), trivial⟩
      | emit event e => exact ⟨.ok (), trivial⟩
      | _ => cases sure

/-- What goes on to write no entry has none under way. -/
theorem not_going_of_only {m : Prog α} (h : m.Only fun r => r.writesEntry = false) :
    ¬ m.Leads keeping (fun _ p => p.isEnd) (.going e) := by
  induction m with
  | done a => exact id
  | fail f => exact id
  | call r rest ih =>
      intro leads
      obtain ⟨x, hx⟩ := exists_expected r
      have goesOn := leads.2 x hx
      rw [show keeping.next _ r x = _ from next_of_plain h.1 x] at goesOn
      exact ih x (h.2 x) goesOn

/-- A call that has yet to begin has no entry under way. -/
theorem not_going_of_call (settings : Settings) (call : Call) :
    ¬ (call.program settings).Leads keeping (fun _ p => p.isEnd) (.going e) := by
  cases call with
  | dispatch kind context => exact not_going_of_only (Prog.only_map _ (only_dispatch kind context))
  | run id trigger context triggeredBy =>
      -- were it so, a failing look-up would end the call
      intro leads
      exact leads.2 (.error .noSuchOperation) ⟨Failure.report_ne_empty trivial, rfl⟩

end Keeping

/-! ## What is so in every state -/

/-- Calls are about to begin, over entries of runs that have ended. -/
structure System.IsFresh (settings : Settings) (s : System (List Uid ⊕ RecordId)) : Prop where
  calls : ∀ c ∈ s.calls, ∃ call : Call, c = call.program settings
  tasks : s.tasks = []
  plain : s.world.IsPlain
  once : (s.world.entries.map Execution.id).Nodup
  issued : ∀ e ∈ s.world.entries, ∀ n, e.id = .issued n → n ≤ s.world.issued
  closed : ∀ e ∈ s.world.entries, e.IsClosed

/-- The work in a system keeps to the code, and the entries stand up to an audit. -/
def System.StandsUp (past : List Execution) (s : System (List Uid ⊕ RecordId)) : Prop :=
  System.Attended keeping Pen.isEnd Pen.suits (Kept past) s

namespace System.StandsUp

variable {settings : Settings} {past : List Execution} {s t : System (List Uid ⊕ RecordId)}

theorem of_isFresh (h : s.IsFresh settings) : StandsUp [] s := by
  refine System.Attended.of_start .empty ?_ h.tasks ⟨h.plain, ?_⟩
  · intro c hc
    obtain ⟨call, rfl⟩ := h.calls c hc
    exact Keeping.leads_call settings call
  · refine ⟨h.once, h.issued, fun e he => (h.closed e he).sound, ?_, ?_, ?_, by simp⟩
    · intro p hp
      obtain rfl := List.eq_of_mem_replicate hp
      trivial
    · intro e he under
      rw [(h.closed e he).finished] at under
      cases under
    · rw [List.filterMap_replicate_of_none rfl]
      exact List.nodup_nil

theorem of_reachable (h : StandsUp past s)
    (reachable : System.Reachable settings World.Besides s t) : StandsUp past t :=
  System.Attended.of_reachable (attends_keeping settings past) reachable h

/-- From a state on, its own entries are the past. -/
theorem remember (h : StandsUp past s) : StandsUp s.world.entries s := by
  obtain ⟨calls, tasks, hcalls, htasks, leads, keeps, plain, audited⟩ := h
  exact ⟨calls, tasks, hcalls, htasks, leads, keeps, plain, audited.remember⟩

/-- Where no run is in progress no piece of work has an entry under way. -/
theorem finished (h : StandsUp past s) (quiet : s.HasNoRun settings) :
    ∀ e ∈ s.world.entries, e.isFinished = true := by
  obtain ⟨calls, tasks, hcalls, htasks, leads, keeps, _, audited⟩ := h
  intro e he
  rw [← Bool.not_eq_false]
  intro under
  rcases List.mem_append.mp (audited.held e he under) with going | going
  · obtain ⟨⟨p, c⟩, hc, rfl⟩ := List.mem_map.mp going
    have goesOn := leads _ hc
    rcases quiet.calls c (hcalls ▸ List.mem_map_of_mem hc) with
      isOver | ⟨call, rfl⟩ | ⟨kind, context, leaves⟩
    · exact goesOn.ends isOver
    · exact Keeping.not_going_of_call settings call goesOn
    · have only : (Call.program settings (.dispatch kind context)).Only
          fun r => r.writesEntry = false := Prog.only_map _ (Keeping.only_dispatch kind context)
      exact Keeping.not_going_of_only (only.leaves leaves) goesOn
  · obtain ⟨⟨p, t⟩, ht, rfl⟩ := List.mem_map.mp going
    obtain ⟨goesOn, suits⟩ := keeps _ ht
    have isRun : t.work.isRun = true := by
      cases work : t.work with
      | run q => rfl
      | delivery job =>
          rw [work] at suits
          cases suits
    have isOver := quiet.tasks t (htasks ▸ List.mem_map_of_mem ht) isRun
    exact goesOn.ends isOver

end System.StandsUp

/-- However dispatches, runs by hand and the background interleave: no two entries have one
identifier and every entry is sound; whatever comes later, no entry is lost, and one whose run
has ended is as it was; and where no run is in progress every entry is of a run that has ended. -/
theorem entries_audited (settings : Settings) {start s : System (List Uid ⊕ RecordId)}
    (fresh : start.IsFresh settings)
    (reachable : System.Reachable settings World.Besides start s) :
    (s.world.entries.map Execution.id).Nodup ∧ (∀ e ∈ s.world.entries, e.IsSound) ∧
      (∀ t, System.Reachable settings World.Besides s t →
        ∀ e ∈ s.world.entries, e.StaysIn t.world.entries) ∧
      (s.HasNoRun settings → ∀ e ∈ s.world.entries, e.isFinished = true) := by
  have standsUp := (System.StandsUp.of_isFresh fresh).of_reachable reachable
  refine ⟨?_, ?_, ?_, standsUp.finished⟩
  · obtain ⟨_, _, _, _, _, _, _, audited⟩ := standsUp
    exact audited.once
  · obtain ⟨_, _, _, _, _, _, _, audited⟩ := standsUp
    exact audited.sound
  · intro t later
    obtain ⟨_, _, _, _, _, _, _, audited⟩ := standsUp.remember.of_reachable later
    exact audited.past

/-- A greeting of a deal that has failed. -/
def failedGreeting : Execution where
  id := .issued 1
  workflowId := ⟨3⟩
  trigger := .known .recordCreated
  entityType := "deal"
  entityId := "d"
  status := .known .failed
  errorMessage := some "no address"
  startedAt := default
  completedAt := some default

/-- A dispatch for a deal whose greeting has failed, and one that greets it by hand. -/
def greetedByHand : System (List Uid ⊕ RecordId) where
  world := {
    store := .memory { workflows := [greeting], executions := [failedGreeting] }
    issued := 1 }
  calls := [(Call.dispatch (.known .recordCreated) newDeal).program {},
    (Call.run ⟨3⟩ (.known .manual) newDeal none).program {}]
  tasks := []

theorem greetedByHand_isFresh : greetedByHand.IsFresh {} where
  calls c hc := by
    simp only [greetedByHand, List.mem_cons, List.not_mem_nil, or_false] at hc
    rcases hc with rfl | rfl <;> exact ⟨_, rfl⟩
  tasks := rfl
  plain := ⟨rfl, by simp [World.HasWords, greetedByHand], by simp [World.Spares, greetedByHand]⟩
  once := by decide
  issued e he n hn := by
    obtain rfl := List.mem_singleton.mp he
    exact Nat.le_of_eq (RecordId.issued.inj hn).symm
  closed e he := by
    obtain rfl := List.mem_singleton.mp he
    exact {
      sound := {
        known := ⟨_, rfl⟩
        running := by decide
        counted := rfl
        last := by simp [failedGreeting]
        completed := fun completed => by cases completed
        failed := fun _ => ⟨_, rfl, by decide⟩ }
      finished := rfl }

/-- The run by hand has looked up its workflow and the time, and has opened its entry. -/
theorem greetedByHand_opened :
    greetedByHand.IsFresh {} ∧ ∃ s, System.Reachable {} World.Besides greetedByHand s ∧
      s.world.entries.map Execution.status = [.known .failed, .known .running] ∧
      ∀ e ∈ s.world.entries, e.IsSound := by
  have waiting : System.Reachable {} World.Besides greetedByHand greetedByHand := .refl
  have looked := waiting.step (.call _ [_] [] [] (.getWorkflow ⟨3⟩) _ rfl)
  have timed := looked.step (.call _ [_] [] [] .now _ rfl)
  have opened := timed.step (.call _ [_] [] [] (.openExecution _) _ rfl)
  exact ⟨greetedByHand_isFresh, _, opened, by decide,
    (entries_audited {} greetedByHand_isFresh opened).2.1⟩

end RecordFlow
