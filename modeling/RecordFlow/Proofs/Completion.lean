/-
# Completion — the ledger of a key while its runs are under way

While a key is held on the way to a run, the ledger shows no completed run of
it; while a run of it is under way, no completed run but this one.  The
invariant is `Settled`, beside `Held`: it is broken by no answer to work that
keeps to the code, `Settled.answered`, and by nothing that happens elsewhere,
`Settled.elsewhere`.
-/
import RecordFlow.Proofs.Claims

namespace RecordFlow

/-- The identifier of the entry that a run writes. -/
def Phase.writing? : Phase → Option RecordId
  | running _ e => some e.id
  | _ => none

/-- The ledger shows no completed run of a key. -/
def Store.Lacks (s : Store) (k : RunKey) : Prop := ∀ l ∈ s.ledger, l.isCompletedFor k = false

/-- The identifiers in the ledger that were issued have been issued before. -/
def World.IsIssued (w : World) : Prop := ∀ l ∈ w.store.ledger, ∀ n, l.id = .issued n → n ≤ w.issued

/-- What the ledger shows of a key agrees with a phase. -/
def Agrees (k : RunKey) (w : World) : Phase → Prop
  | .cleared key => key = k → w.store.Lacks k
  | .due o => o.key = k → w.store.Lacks k
  | .running o e =>
    (∃ n, e.id = .issued n ∧ n ≤ w.issued) ∧
      (∀ l ∈ w.store.ledger, l.id = e.id → l.key = o.key) ∧
      (o.key = k → ∀ l ∈ w.store.ledger, l.isCompletedFor k = true →
        l.id = e.id ∧ e.isCompleted = true)
  | _ => True

/-- The ledger has one completed run of a key at most, and none while a run of it is to come;
where it is known to have one, it has one. -/
structure Settled (known : Prop) (k : RunKey) (w : World) (ps : List Phase) : Prop where
  once : (LedgerLine.ids w.store.ledger).Nodup
  issued : w.IsIssued
  single : ∀ l ∈ w.store.ledger, ∀ l' ∈ w.store.ledger, l.isCompletedFor k = true →
    l'.isCompletedFor k = true → l.id = l'.id
  waits : (∃ q ∈ w.waiting, q.key = k) → w.store.Lacks k
  agrees : ∀ p ∈ ps, Agrees k w p
  apart : (ps.filterMap Phase.writing?).Nodup
  stays : known → ∃ l ∈ w.store.ledger, l.isCompletedFor k = true

/-- What may happen to a world elsewhere, as far as a key is concerned: the lines of the key and
the engine's book are as they were, a definition of its workflow is still run once, and what
comes into the ledger goes on from an old line or has a new identifier. -/
structure World.Elsewhere (k : RunKey) (w w' : World) : Prop where
  claimed : w'.claimed = w.claimed
  waiting : w'.waiting = w.waiting
  runsOnce : (∀ d ∈ w.store.flags, d.1 = k.workflowId → d.2 = true) →
    ∀ d ∈ w'.store.flags, d.1 = k.workflowId → d.2 = true
  lines : ∀ l, l.key = k → (l ∈ w'.store.ledger ↔ l ∈ w.store.ledger)
  once : (LedgerLine.ids w.store.ledger).Nodup → (LedgerLine.ids w'.store.ledger).Nodup
  later : w.issued ≤ w'.issued
  issued : ∀ l ∈ w'.store.ledger, ∀ n, l.id = .issued n → n ≤ w'.issued ∧
    (n ≤ w.issued → ∃ old ∈ w.store.ledger, old.id = l.id ∧ old.key = l.key)

/-- A line of a completed run for a key is of the key. -/
theorem LedgerLine.key_of_isCompletedFor {l : LedgerLine} {k : RunKey}
    (h : l.isCompletedFor k = true) : l.key = k := by
  simp only [LedgerLine.isCompletedFor, Bool.and_eq_true, decide_eq_true_eq] at h
  exact h.1

theorem LedgerLine.completed_of_isCompletedFor {l : LedgerLine} {k : RunKey}
    (h : l.isCompletedFor k = true) : l.completed = true := by
  simp only [LedgerLine.isCompletedFor, Bool.and_eq_true] at h
  exact h.2

theorem Store.lacks_iff {s : Store} {k : RunKey} :
    s.hasCompleted k.workflowId k.entityType k.entityId = false ↔ s.Lacks k := by
  rw [hasCompleted_eq_any, List.any_eq_false]
  simp only [Store.Lacks, Bool.not_eq_true]

/-- What showed no completed run of a key shows none where no completed run comes in. -/
theorem Store.Lacks.of_comes {s s' : Store} {k : RunKey} (h : s.Lacks k)
    (comes : ∀ l ∈ s'.ledger, l.isCompletedFor k = true → l ∈ s.ledger) : s'.Lacks k := by
  intro l hl
  rw [← Bool.not_eq_true]
  intro done
  exact Bool.false_ne_true ((h l (comes l hl done)).symm.trans done)

/-- The phase of another agrees with the ledger still, where nothing is written under its entry
and no completed run comes to a key that it holds. -/
theorem Agrees.other {k : RunKey} {w w' : World} {p : Phase} (h : Agrees k w p)
    (later : w.issued ≤ w'.issued)
    (keys : ∀ l ∈ w'.store.ledger, ∀ n, l.id = .issued n → n ≤ w.issued → p.writing? = some l.id →
      ∃ old ∈ w.store.ledger, old.id = l.id ∧ old.key = l.key)
    (comes : p.holds k = true → ∀ l ∈ w'.store.ledger, l.isCompletedFor k = true →
      l ∈ w.store.ledger) : Agrees k w' p := by
  cases p with
  | cleared key =>
      intro same
      exact (h same).of_comes (comes (by simpa [Phase.holds] using same))
  | due o =>
      intro same
      exact (h same).of_comes (comes (by simpa [Phase.holds] using same))
  | running o e =>
      obtain ⟨⟨n, issued, bound⟩, own, completed⟩ := h
      refine ⟨⟨n, issued, Nat.le_trans bound later⟩, ?_, ?_⟩
      · intro l hl same
        obtain ⟨old, hold, hid, hkey⟩ := keys l hl n (same.trans issued) bound (by rw [same]; rfl)
        exact hkey ▸ own old hold (hid.trans same)
      · intro same l hl done
        exact completed same l (comes (by simpa [Phase.holds] using same) l hl done) done
  | _ => trivial

/-! ## What the entry of a run does to the lines -/

section

variable {e : Execution} {key k : RunKey} {ls ls' : List LedgerLine}

/-- The lines under an entry are of the key of its run still. -/
theorem Rewritten.own (h : Rewritten e ls ls') (hkey : e.key = key)
    (own : ∀ l ∈ ls, l.id = e.id → l.key = key) : ∀ l ∈ ls', l.id = e.id → l.key = key := by
  intro l hl same
  rcases h.comes l hl with old | ⟨_, written | ⟨old, hold, hid, same⟩, _⟩
  · exact own l old same
  · exact written.trans hkey
  · exact same ▸ own old hold hid

/-- An entry completes no run of another key. -/
theorem Rewritten.old_of_completed (h : Rewritten e ls ls') (hkey : e.key = key)
    (own : ∀ l ∈ ls, l.id = e.id → l.key = key) (other : key ≠ k) :
    ∀ l ∈ ls', l.isCompletedFor k = true → l ∈ ls := by
  intro l hl done
  rcases h.comes l hl with old | ⟨hid, _, _⟩
  · exact old
  · have mine : l.key = key := h.own hkey own l hl hid
    exact absurd (mine.symm.trans (LedgerLine.key_of_isCompletedFor done)) other

/-- Where no run was completed but this one, no other is. -/
theorem Rewritten.completed (h : Rewritten e ls ls')
    (alone : ∀ l ∈ ls, l.isCompletedFor k = true → l.id = e.id ∧ e.isCompleted = true) :
    ∀ l ∈ ls', l.isCompletedFor k = true → l.id = e.id ∧ e.isCompleted = true := by
  intro l hl done
  rcases h.comes l hl with old | ⟨hid, _, hdone⟩
  · exact alone l old done
  · exact ⟨hid, hdone ▸ LedgerLine.completed_of_isCompletedFor done⟩

/-- A completed run stays so: its line is written over by its own run only, which goes on to be
completed. -/
theorem Rewritten.stays_completed (h : Rewritten e ls ls') (hkey : e.key = key)
    (own : ∀ l ∈ ls, l.id = e.id → l.key = key)
    (alone : key = k → ∀ l ∈ ls, l.isCompletedFor k = true → l.id = e.id ∧ e.isCompleted = true)
    (there : ∃ l ∈ ls, l.isCompletedFor k = true) : ∃ l ∈ ls', l.isCompletedFor k = true := by
  obtain ⟨l, hl, done⟩ := there
  rcases h.stays l hl with there | ⟨same, new, hnew, _, hdone, hkey'⟩
  · exact ⟨l, there, done⟩
  · have hk : l.key = k := LedgerLine.key_of_isCompletedFor done
    have same : key = k := (own l hl same).symm.trans hk
    have newKey : new.key = k := hkey'.elim (fun h => h.trans (hkey.trans same)) (·.trans hk)
    refine ⟨new, hnew, ?_⟩
    simp [LedgerLine.isCompletedFor, newKey, hdone, (alone same l hl done).2]

end

namespace Settled

variable {declared : Uid × Bool → Prop} {known : Prop} {k : RunKey} {w w' : World}
  {before after ps : List Phase} {p p' : Phase}

theorem of_ledger (h : Settled known k w ps) (ledger : w'.store.ledger = w.store.ledger)
    (issued : w'.issued = w.issued) (waiting : w'.waiting = w.waiting) :
    Settled known k w' ps where
  once := by rw [ledger]; exact h.once
  issued := by unfold World.IsIssued; rw [ledger, issued]; exact h.issued
  single := by rw [ledger]; exact h.single
  waits := by unfold Store.Lacks; rw [ledger, waiting]; exact h.waits
  agrees p hp := (h.agrees p hp).other (Nat.le_of_eq issued.symm)
    (fun l hl _ _ _ _ => ⟨l, ledger ▸ hl, rfl, rfl⟩) fun _ l hl _ => ledger ▸ hl
  apart := h.apart
  stays := by rw [ledger]; exact h.stays

theorem of_aside (h : Settled known k w ps) (aside : w.Aside w') : Settled known k w' ps :=
  h.of_ledger (Store.ledger_eq_of_table aside.table) aside.issued aside.waiting

/-- A phase is left for one that agrees too and that writes no entry of its own. -/
theorem of_phase (h : Settled known k w (before ++ p :: after)) (p' : Phase)
    (agrees : Agrees k w p') (entry : p'.writing? = none) :
    Settled known k w (before ++ p' :: after) where
  once := h.once
  issued := h.issued
  single := h.single
  waits := h.waits
  agrees := forall_mem_middle.mpr ⟨agrees, (forall_mem_middle.mp h.agrees).2⟩
  apart := by
    rw [List.filterMap_append, List.filterMap_cons, entry, ← List.filterMap_append]
    exact h.apart.sublist ((sublist_middle before p after).filterMap _)
  stays := h.stays

/-- Entries are apart with a run among others just when no other writes its entry. -/
theorem apart_running {o : Origin} {e : Execution} :
    ((before ++ .running o e :: after).filterMap Phase.writing?).Nodup ↔
      (∀ q ∈ before ++ after, q.writing? ≠ some e.id) ∧
        ((before ++ after).filterMap Phase.writing?).Nodup := by
  have perm : (before ++ .running o e :: after).Perm (.running o e :: (before ++ after)) :=
    List.perm_middle
  rw [(perm.filterMap Phase.writing?).nodup_iff]
  refine List.nodup_cons.trans (and_congr_left fun _ => ?_)
  rw [List.mem_filterMap]
  constructor
  · intro none q hq same
    exact none ⟨q, hq, same⟩
  · rintro others ⟨q, hq, same⟩
    exact others q hq same

/-- A run writes its entry. -/
theorem write {o : Origin} {e : Execution} (h : Settled known k w (before ++ p :: after))
    (held : Held declared k w (before ++ p :: after)) (holding : p.holds k = decide (o.key = k))
    (origin : e.origin = o) (others : ∀ q ∈ before ++ after, q.writing? ≠ some e.id)
    (agrees : Agrees k { w with issued := w'.issued } (.running o e))
    (rewritten : Rewritten e w.store.ledger w'.store.ledger)
    (later : w.issued ≤ w'.issued) (waiting : w'.waiting = w.waiting) :
    Settled known k w' (before ++ .running o e :: after) := by
  obtain ⟨⟨n, hid, bound⟩, own, completed⟩ := agrees
  have hkey : e.key = o.key := congrArg Origin.key origin
  have comes : o.key ≠ k → ∀ l ∈ w'.store.ledger, l.isCompletedFor k = true →
      l ∈ w.store.ledger := rewritten.old_of_completed hkey own
  have alone : o.key = k → ∀ l ∈ w'.store.ledger, l.isCompletedFor k = true →
      l.id = e.id ∧ e.isCompleted = true := fun same => rewritten.completed (completed same)
  have agrees : Agrees k w' (.running o e) :=
    ⟨⟨n, hid, bound⟩, rewritten.own hkey own, alone⟩
  have rest : ∀ q ∈ before ++ after, Agrees k w' q := by
    intro q hq
    refine ((forall_mem_middle.mp h.agrees).2 q hq).other later ?_ ?_
    · intro l hl m _ _ entry
      rcases rewritten.comes l hl with old | ⟨hid, _, _⟩
      · exact ⟨l, old, rfl, rfl⟩
      · exact absurd (hid ▸ entry) (others q hq)
    · intro holds
      refine comes fun same => ?_
      have free := (held.alone (by simpa [same] using holding)).1 q hq
      exact Bool.false_ne_true (free.symm.trans holds)
  refine ⟨rewritten.nodup h.once, ?_, ?_, ?_, forall_mem_middle.mpr ⟨agrees, rest⟩, ?_, ?_⟩
  · intro l hl m hm
    rcases rewritten.comes l hl with old | ⟨same, _, _⟩
    · exact Nat.le_trans (h.issued l old m hm) later
    · obtain rfl : m = n := by simpa using hm.symm.trans (same.trans hid)
      exact bound
  · intro l hl l' hl' done done'
    by_cases same : o.key = k
    · exact (alone same l hl done).1.trans (alone same l' hl' done').1.symm
    · exact h.single l (comes same l hl done) l' (comes same l' hl' done') done done'
  · rw [waiting]
    intro waits
    by_cases same : o.key = k
    · obtain ⟨q, hq, hk⟩ := waits
      exact absurd hk ((held.alone (by simpa [same] using holding)).2.1 q hq)
    · exact (h.waits waits).of_comes (comes same)
  · have apart := h.apart.sublist ((sublist_middle before p after).filterMap _)
    exact apart_running.mpr ⟨others, apart⟩
  · intro hknown
    exact rewritten.stays_completed hkey own completed (h.stays hknown)

/-! ### Every answer -/

theorem aside (h : Settled known k w (before ++ p :: after)) {r : Request}
    (aside : r.isAside = true) (allowed : Duty.may declared p r) :
    Settled known k (w.answer r).2 (before ++ Duty.next p r (w.answer r).1 :: after) := by
  refine of_aside ?_ (w.aside_answer aside)
  cases p with
  | claiming key =>
      rcases allowed with rfl | rfl
      · rcases w.answer_cases (.hasCompleted key) with ⟨no, _⟩ | ⟨f, faults, ha⟩ | ⟨faults, ha⟩
        · cases no
        · rw [ha]
          exact h
        · rw [ha]
          show Settled known k w (before ++ Duty.next (.claiming key) (.hasCompleted key)
            (.ok (w.store.hasCompleted key.workflowId key.entityType key.entityId)) :: after)
          cases looked : w.store.hasCompleted key.workflowId key.entityType key.entityId with
          | true => exact h
          | false =>
              have lacks := Store.lacks_iff.mp looked
              exact h.of_phase (.cleared key) (fun same => same ▸ lacks) rfl
      · cases aside
  | cleared key =>
      obtain ⟨q, rfl, _⟩ := allowed
      cases aside
  | released => cases allowed
  | aside => exact h
  | idle => rwa [Duty.next_of_aside (p := .idle) trivial aside]
  | due o => rwa [Duty.next_of_aside (p := .due o) trivial aside]
  | running o e => rwa [Duty.next_of_aside (p := .running o e) trivial aside]

theorem start {q : QueuedRun} (h : Settled known k w (before ++ p :: after))
    (lacks : q.key = k → w.store.Lacks k) (agrees : Agrees k w p') (entry : p'.writing? = none) :
    Settled known k (w.answer (.start (.run q))).2 (before ++ p' :: after) := by
  have waits : (w.answer (.start (.run q))).2.waiting = w.waiting ++ [q.outline] := by
    simp [World.waiting, Background.run?]
  have here := h.of_phase p' agrees entry
  refine { here with waits := ?_ }
  rw [waits]
  rintro ⟨x, hx, same⟩
  rcases List.mem_append.mp hx with hx | hx
  · exact h.waits ⟨x, hx, same⟩
  · obtain rfl := List.mem_singleton.mp hx
    exact lacks same

/-- No run is writing the entry that is issued next. -/
theorem entry_fresh (h : Settled known k w ps) :
    ∀ p ∈ ps, p.writing? ≠ some (.issued (w.issued + 1)) := by
  intro p hp entry
  have agrees := h.agrees p hp
  cases p with
  | running o e =>
      obtain ⟨⟨n, issued, bound⟩, _⟩ := agrees
      have same : n = w.issued + 1 := by simpa [Phase.writing?, issued] using entry
      exact Nat.not_succ_le_self _ (same ▸ bound)
  | _ => cases entry

/-- No line of the ledger has the identifier that is issued next. -/
theorem id_fresh (h : Settled known k w ps) :
    ∀ l ∈ w.store.ledger, l.id ≠ .issued (w.issued + 1) := by
  intro l hl same
  exact Nat.not_succ_le_self _ (h.issued l hl _ same)

/-- A new entry comes into the ledger, under the identifier that is issued next. -/
theorem createEntry {o : Origin} {e : Execution}
    (h : Settled known k w (before ++ .due o :: after))
    (held : Held declared k w (before ++ .due o :: after)) (opens : e.Opens o)
    (hid : e.id = .issued (w.issued + 1)) (issued : w'.issued = w.issued + 1)
    (waiting : w'.waiting = w.waiting) (store : w'.store = (w.store.createExecution e).2) :
    Settled known k w' (before ++ .running o e :: after) := by
  have rewritten : Rewritten e w.store.ledger w'.store.ledger := by
    rw [store]
    refine rewritten_createExecution opens.running ?_
    intro mem
    obtain ⟨l, hl, same⟩ := List.mem_map.mp mem
    exact h.id_fresh l hl (same.trans hid)
  have others : ∀ q ∈ before ++ after, q.writing? ≠ some e.id := by
    rw [hid]
    exact (forall_mem_middle.mp h.entry_fresh).2
  have due : Agrees k w (.due o) := (forall_mem_middle.mp h.agrees).1
  refine h.write held rfl opens.origin others ⟨⟨_, hid, Nat.le_of_eq issued.symm⟩, ?_, ?_⟩
    rewritten (issued.symm ▸ Nat.le_succ _) waiting
  · intro l hl same
    exact absurd (same.trans hid) (h.id_fresh l hl)
  · intro same l hl done
    exact absurd ((due same l hl).symm.trans done) Bool.false_ne_true

/-- A run opens an entry; where its opening fails, the entry is written or not, and the run is to
come still. -/
theorem openEntry {o : Origin} {e : Execution} (h : Settled known k w (before ++ .due o :: after))
    (held : Held declared k w (before ++ .due o :: after)) (opens : e.Opens o) :
    Settled known k (w.answer (.openExecution e)).2 (before ++
      Duty.next (.due o) (.openExecution e) (w.answer (.openExecution e)).1 :: after) := by
  rcases w.answer_cases (.openExecution e) with ⟨no, _⟩ | ⟨f, faults, ha⟩ | ⟨faults, ha⟩
  · cases no
  · rw [ha]
    exact h.of_aside (.withFaults w faults)
  · obtain ⟨_, waiting, issued, store, result⟩ := World.perform_openExecution { w with faults } e
    generalize hnew : ({ e with id := .issued (w.issued + 1) } : Execution) = new at store result
    have hid : new.id = .issued (w.issued + 1) := by rw [← hnew]
    have begins : new.Opens o := by
      rw [← hnew]
      exact ⟨opens.origin, opens.running⟩
    have written := h.createEntry held begins hid issued waiting store
    rw [ha]
    rcases result with result | ⟨f, result⟩
    · rw [result]
      exact written
    · rw [result]
      refine written.of_phase (.due o) ?_ rfl
      -- an entry that was written though its opening failed is not completed either
      intro same l hl
      rw [← Bool.not_eq_true]
      intro done
      obtain ⟨⟨_, _, completed⟩, _⟩ := forall_mem_middle.mp written.agrees
      have := (completed same l hl done).2
      simp [Execution.isCompleted, begins.running] at this

/-- A run writes its entry anew. -/
theorem rewrite {o : Origin} {e e' : Execution}
    (h : Settled known k w (before ++ .running o e :: after))
    (held : Held declared k w (before ++ .running o e :: after)) (follows : e.Follows o e')
    (rewritten : Rewritten e' w.store.ledger w'.store.ledger) (issued : w'.issued = w.issued)
    (waiting : w'.waiting = w.waiting) :
    Settled known k w' (before ++ .running o e' :: after) := by
  obtain ⟨⟨n, hid, bound⟩, own, completed⟩ := h.agrees (.running o e) (by simp)
  have others : ∀ q ∈ before ++ after, q.writing? ≠ some e'.id := by
    rw [follows.id]
    exact (apart_running.mp h.apart).1
  refine h.write held rfl follows.origin others ⟨⟨n, follows.id.trans hid, issued ▸ bound⟩, ?_, ?_⟩
    rewritten (Nat.le_of_eq issued.symm) waiting
  · intro l hl same
    exact own l hl (same.trans follows.id)
  · intro same l hl done
    obtain ⟨hid, hdone⟩ := completed same l hl done
    exact ⟨hid.trans follows.id.symm, follows.completed hdone⟩

theorem publishEntry {o : Origin} {e e' : Execution}
    (h : Settled known k w (before ++ .running o e :: after))
    (held : Held declared k w (before ++ .running o e :: after)) (follows : e.Follows o e') :
    Settled known k (w.answer (.publishExecution e')).2 (before ++ .running o e' :: after) :=
  h.rewrite held follows rewritten_publishExecution rfl rfl

theorem finishEntry {o : Origin} {e e' : Execution}
    (h : Settled known k w (before ++ .running o e :: after))
    (held : Held declared k w (before ++ .running o e :: after)) (follows : e.Follows o e') :
    Settled known k (w.answer (.finishExecution e')).2 (before ++ .running o e' :: after) := by
  obtain ⟨status, known⟩ := follows.known
  have rewritten := rewritten_finishExecution known h.once
  rcases w.answer_cases (.finishExecution e') with ⟨no, _⟩ | ⟨f, faults, ha⟩ | ⟨faults, ha⟩
  · cases no
  · rw [ha]
    exact h.rewrite held follows .refl rfl rfl
  · obtain ⟨_, waiting, issued, store⟩ := World.perform_finishExecution { w with faults } e'
    rw [ha]
    exact h.rewrite held follows (by rwa [store]) issued waiting

theorem answered (h : Settled known k w (before ++ p :: after))
    (held : Held declared k w (before ++ p :: after)) {r : Request}
    (allowed : Duty.may declared p r) (runsOnce : ¬ declared (k.workflowId, false)) :
    Settled known k (w.answer r).2 (before ++ Duty.next p r (w.answer r).1 :: after) := by
  by_cases aside : r.isAside = true
  · exact h.aside aside allowed
  · cases p with
    | idle =>
        rcases allowed with prompt | ⟨key, rfl⟩ | ⟨q, rfl, _, flag⟩
        · exact absurd (Request.isAside_of_isPrompt prompt) aside
        · rw [World.answer_claim]
          by_cases claimed : key ∈ w.claimed
          · rw [if_pos claimed]
            exact h
          · rw [if_neg claimed]
            exact (h.of_phase (.claiming key) trivial rfl).of_ledger rfl rfl rfl
        · exact h.start (fun same => absurd (same ▸ flag) runsOnce) trivial rfl
    | claiming key =>
        rcases allowed with rfl | rfl
        · exact absurd rfl aside
        · exact (h.of_phase .idle trivial rfl).of_ledger rfl rfl rfl
    | cleared key =>
        obtain ⟨q, rfl, _, rfl⟩ := allowed
        exact h.start (h.agrees (.cleared q.key) (by simp)) trivial rfl
    | due o =>
        rcases allowed with prompt | ⟨e, rfl, opens⟩ | rfl
        · exact absurd (Request.isAside_of_isPrompt prompt) aside
        · exact h.openEntry held opens
        · exact (h.of_phase .released trivial rfl).of_ledger rfl rfl rfl
    | running o e =>
        rcases allowed with prompt | ⟨e', rfl | rfl, follows⟩ | rfl
        · exact absurd (Request.isAside_of_isPrompt prompt) aside
        · exact h.publishEntry held follows
        · exact h.finishEntry held follows
        · exact (h.of_phase .released trivial rfl).of_ledger rfl rfl rfl
    | released => cases allowed
    | aside => exact absurd allowed aside

/-! ### Work that begins, and what happens elsewhere -/

theorem begun (h : Settled known k w ps) {front back : List Background} {work : Background}
    (queued : w.queue = front ++ work :: back) :
    Settled known k { w with queue := front ++ back } (ps ++ [Duty.begins work]) := by
  have fewer (q : QueuedRun) (hq : q ∈ ({ w with queue := front ++ back } : World).waiting) :
      q ∈ w.waiting :=
    (World.waiting_of_queued queued).mem_iff.mpr (List.mem_append_right _ hq)
  have agrees : Agrees k w (Duty.begins work) := by
    cases work with
    | delivery job => trivial
    | run q =>
        intro same
        refine h.waits ⟨q.outline, List.mem_filterMap.mpr ⟨.run q, ?_, rfl⟩, same⟩
        rw [queued]
        simp
  have entry : (Duty.begins work).writing? = none := by cases work <;> rfl
  refine ⟨h.once, h.issued, h.single, ?_, ?_, ?_, h.stays⟩
  · rintro ⟨q, hq, same⟩
    exact h.waits ⟨q, fewer q hq, same⟩
  · intro q hq
    rcases List.mem_append.mp hq with hq | hq
    · exact h.agrees q hq
    · obtain rfl := List.mem_singleton.mp hq
      exact agrees
  · rw [List.filterMap_append, List.filterMap_cons, entry]
    simpa using h.apart

theorem elsewhere (h : Settled known k w ps) (happens : w.Elsewhere k w') :
    Settled known k w' ps := by
  have back : ∀ l ∈ w'.store.ledger, l.isCompletedFor k = true → l ∈ w.store.ledger := by
    intro l hl done
    exact (happens.lines l (LedgerLine.key_of_isCompletedFor done)).mp hl
  refine ⟨happens.once h.once, ?_, ?_, ?_, ?_, h.apart, ?_⟩
  · intro l hl n hn
    exact (happens.issued l hl n hn).1
  · intro l hl l' hl' done done'
    exact h.single l (back l hl done) l' (back l' hl' done') done done'
  · rw [happens.waiting]
    intro waits
    exact (h.waits waits).of_comes back
  · intro p hp
    refine (h.agrees p hp).other happens.later ?_ fun _ => back
    intro l hl n hn bound _
    exact (happens.issued l hl n hn).2 bound
  · intro hknown
    obtain ⟨l, hl, done⟩ := h.stays hknown
    exact ⟨l, (happens.lines l (LedgerLine.key_of_isCompletedFor done)).mpr hl, done⟩

end Settled
end RecordFlow
