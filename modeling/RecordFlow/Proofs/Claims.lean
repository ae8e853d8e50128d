/-
# Claims — a claimed key has one holder

A key of a workflow that is run once is claimed just as long as something
holds it: a dispatch between its claim and its start, a run that waits, or a
run that is under way.  There is never more than one of these.  The invariant
is `Held`; it is broken by no answer to work that keeps to the code,
`Held.answered`, nor where waiting work begins, `Held.begun`.
-/
import RecordFlow.Proofs.Duty

namespace RecordFlow

namespace World

/-- The engine's book is the same, and so are the definitions. -/
structure SameBook (w w' : World) : Prop where
  claimed : w'.claimed = w.claimed
  waiting : w'.waiting = w.waiting
  flags : w'.store.flags = w.store.flags

theorem Aside.sameBook {w w' : World} (h : Aside w w') : SameBook w w' :=
  ⟨h.claimed, h.waiting, h.flags⟩

theorem flags_createExecution (s : Store) (e : Execution) :
    (s.createExecution e).2.flags = s.flags :=
  s.createExecution_apart (fun _ _ => rfl) (fun _ _ => rfl) e

theorem flags_finishExecution (s : Store) (e : Execution) :
    (s.finishExecution e).2.flags = s.flags :=
  s.finishExecution_apart (fun _ _ => rfl) (fun _ _ => rfl) e

theorem sameBook_openExecution (w : World) (e : Execution) :
    SameBook w (w.answer (.openExecution e)).2 := by
  rcases w.answer_cases (.openExecution e) with ⟨no, _⟩ | ⟨f, faults, h⟩ | ⟨faults, h⟩
  · cases no
  · rw [h]
    exact (Aside.withFaults w faults).sameBook
  · rw [h]
    obtain ⟨claimed, waiting, _, store, _⟩ := perform_openExecution { w with faults } e
    exact ⟨claimed, waiting, by rw [store]; exact flags_createExecution _ _⟩

theorem sameBook_publishExecution (w : World) (e : Execution) :
    SameBook w (w.answer (.publishExecution e)).2 := by
  refine ⟨rfl, rfl, ?_⟩
  show (w.store.publishExecution e).flags = _
  cases w.store <;> rfl

theorem sameBook_finishExecution (w : World) (e : Execution) :
    SameBook w (w.answer (.finishExecution e)).2 := by
  rcases w.answer_cases (.finishExecution e) with ⟨no, _⟩ | ⟨f, faults, h⟩ | ⟨faults, h⟩
  · cases no
  · rw [h]
    exact (Aside.withFaults w faults).sameBook
  · rw [h]
    obtain ⟨claimed, waiting, _, store⟩ := perform_finishExecution { w with faults } e
    exact ⟨claimed, waiting, by rw [store]; exact flags_finishExecution _ _⟩

/-- Where waiting work begins, the runs that waited are the one that begins, if it is one, and
those that wait still. -/
theorem waiting_of_queued {w : World} {front back : List Background} {work : Background}
    (queued : w.queue = front ++ work :: back) :
    w.waiting.Perm
      ((Background.run? work).toList ++ ({ w with queue := front ++ back } : World).waiting) := by
  have rest : ({ w with queue := front ++ back } : World).waiting
      = front.filterMap Background.run? ++ back.filterMap Background.run? := List.filterMap_append
  rw [waiting, queued, List.filterMap_append, List.filterMap_cons, rest]
  cases Background.run? work with
  | none => exact .refl _
  | some q => exact List.perm_middle

end World

/-! ## One phase among others -/

theorem sublist_middle {α : Type} (xs : List α) (x : α) (ys : List α) :
    (xs ++ ys).Sublist (xs ++ x :: ys) :=
  (List.sublist_cons_self x ys).append_left xs

theorem forall_mem_middle {α : Type} {xs ys : List α} {x : α} {P : α → Prop} :
    (∀ y ∈ xs ++ x :: ys, P y) ↔ P x ∧ ∀ y ∈ xs ++ ys, P y := by
  simp only [List.perm_middle.mem_iff]
  exact List.forall_mem_cons

theorem exists_mem_middle {α : Type} {xs ys : List α} {x : α} {P : α → Prop} :
    (∃ y ∈ xs ++ x :: ys, P y) ↔ P x ∨ ∃ y ∈ xs ++ ys, P y := by
  simp only [List.perm_middle.mem_iff, List.mem_cons, or_and_right, exists_or, exists_eq_left]

theorem countP_middle {α : Type} (f : α → Bool) (xs ys : List α) (x : α) :
    (xs ++ x :: ys).countP f = (xs ++ ys).countP f + if f x then 1 else 0 := by
  rw [List.perm_middle.countP_eq, List.countP_cons]

theorem countP_middle_congr {α : Type} {f : α → Bool} {xs ys : List α} {x y : α}
    (same : f y = f x) : (xs ++ y :: ys).countP f = (xs ++ x :: ys).countP f := by
  rw [countP_middle, countP_middle, same]

/-! ## The invariant -/

/-- How many hold a key: work in a phase that holds it, and runs that wait. -/
def holders (k : RunKey) (w : World) (ps : List Phase) : Nat :=
  ps.countP (·.holds k) + w.waiting.countP (·.key = k)

/-- A key is claimed while there is one that holds it, and waiting runs and definitions are as
they should be. -/
structure Held (declared : Uid × Bool → Prop) (k : RunKey) (w : World) (ps : List Phase) :
    Prop where
  one : holders k w ps = if k ∈ w.claimed then 1 else 0
  sound : ∀ q ∈ w.waiting, q.IsSound
  flags : ∀ d ∈ w.store.flags, declared d

namespace Held

variable {declared : Uid × Bool → Prop} {k : RunKey} {w w' : World} {before after ps : List Phase}
  {p p' : Phase}

theorem of_sameBook (h : Held declared k w ps) (same : w.SameBook w') : Held declared k w' ps where
  one := by rw [holders, same.waiting, same.claimed]; exact h.one
  sound := by rw [same.waiting]; exact h.sound
  flags := by rw [same.flags]; exact h.flags

theorem holders_split (k : RunKey) (w : World) (before after : List Phase) (p : Phase) :
    holders k w (before ++ p :: after)
      = holders k w (before ++ after) + if p.holds k = true then 1 else 0 := by
  simp only [holders, List.countP_append, List.countP_cons]
  omega

theorem of_phase (h : Held declared k w (before ++ p :: after)) (same : p'.holds k = p.holds k) :
    Held declared k w (before ++ p' :: after) where
  one := by rw [holders_split, same, ← holders_split]; exact h.one
  sound := h.sound
  flags := h.flags

/-- Where a key is held in one phase, it is held nowhere else. -/
theorem alone (h : Held declared k w (before ++ p :: after)) (holding : p.holds k = true) :
    (∀ q ∈ before ++ after, q.holds k = false) ∧ (∀ q ∈ w.waiting, q.key ≠ k) ∧
      k ∈ w.claimed := by
  have one := h.one
  rw [holders_split, if_pos holding] at one
  have claimed : k ∈ w.claimed := by
    by_cases claimed : k ∈ w.claimed
    · exact claimed
    · rw [if_neg claimed] at one
      omega
  rw [if_pos claimed] at one
  have none : (before ++ after).countP (·.holds k) = 0 ∧ w.waiting.countP (·.key = k) = 0 := by
    rw [holders] at one
    omega
  refine ⟨?_, ?_, claimed⟩
  · intro q hq
    simpa using List.countP_eq_zero.mp none.1 q hq
  · intro q hq
    simpa using List.countP_eq_zero.mp none.2 q hq

/-! ### Claiming, releasing and starting -/

theorem claim (h : Held declared k w (before ++ .idle :: after)) (key : RunKey) :
    Held declared k (w.answer (.claim key)).2
      (before ++ Duty.next .idle (.claim key) (w.answer (.claim key)).1 :: after) := by
  rw [World.answer_claim]
  by_cases claimed : key ∈ w.claimed
  · rw [if_pos claimed]
    exact h
  · rw [if_neg claimed]
    refine ⟨?_, h.sound, h.flags⟩
    have one := h.one
    rw [holders_split] at one ⊢
    by_cases same : key = k
    · subst same
      simpa [Duty.next, Phase.holds, claimed, holders, World.waiting] using one
    · have other : k ≠ key := Ne.symm same
      simpa [Duty.next, Phase.holds, same, other, holders, World.waiting] using one

theorem release {key : RunKey} (h : Held declared k w (before ++ p :: after))
    (holding : p.holds key = true) (only : ∀ k', k' ≠ key → p.holds k' = false)
    (gives : ∀ k', p'.holds k' = false) :
    Held declared k (w.answer (.release key)).2 (before ++ p' :: after) := by
  refine ⟨?_, h.sound, h.flags⟩
  rw [World.answer_release]
  by_cases same : key = k
  · subst same
    obtain ⟨_, _, claimed⟩ := h.alone holding
    have one := h.one
    rw [holders_split, if_pos holding, if_pos claimed] at one
    rw [holders_split]
    simpa [gives, holders, World.waiting] using one
  · have other : k ≠ key := Ne.symm same
    have one := h.one
    rw [holders_split, only k other] at one
    rw [holders_split]
    simpa [gives, other, holders, World.waiting] using one

theorem start {q : QueuedRun} (h : Held declared k w (before ++ p :: after)) (sound : q.IsSound)
    (passes : p.holds k = decide (q.key = k)) (gives : p'.holds k = false) :
    Held declared k (w.answer (.start (.run q))).2 (before ++ p' :: after) := by
  have waits : (w.answer (.start (.run q))).2.waiting = w.waiting ++ [q.outline] := by
    simp [World.waiting, Background.run?]
  refine ⟨?_, ?_, h.flags⟩
  · show _ = if k ∈ w.claimed then 1 else 0
    have one := h.one
    rw [holders_split, passes] at one
    rw [holders_split, gives, holders, waits]
    simp only [List.countP_append, List.countP_singleton]
    have key : q.outline.key = q.key := rfl
    simp only [key, holders] at one ⊢
    simpa [Nat.add_assoc] using one
  · rw [waits]
    intro x hx
    rcases List.mem_append.mp hx with hx | hx
    · exact h.sound x hx
    · obtain rfl := List.mem_singleton.mp hx
      exact sound

/-! ### Every answer, and work that begins -/

theorem holds_next_of_aside {r : Request} (aside : r.isAside = true) (x : Except Failure r.Answer)
    (allowed : Duty.may declared p r) : (Duty.next p r x).holds k = p.holds k := by
  cases p with
  | claiming key =>
      rcases allowed with rfl | rfl
      · rcases x with _ | _ | _ <;> rfl
      · cases aside
  | cleared key =>
      obtain ⟨q, rfl, _⟩ := allowed
      cases aside
  | released => cases allowed
  | aside => rfl
  | idle => rw [Duty.next_of_aside (p := .idle) trivial aside x]
  | due o => rw [Duty.next_of_aside (p := .due o) trivial aside x]
  | running o e => rw [Duty.next_of_aside (p := .running o e) trivial aside x]

theorem answered (h : Held declared k w (before ++ p :: after)) {r : Request}
    (allowed : Duty.may declared p r) (runsOnce : ¬ declared (k.workflowId, false)) :
    Held declared k (w.answer r).2 (before ++ Duty.next p r (w.answer r).1 :: after) := by
  by_cases aside : r.isAside = true
  · exact (h.of_phase (holds_next_of_aside aside _ allowed)).of_sameBook
      (w.aside_answer aside).sameBook
  · cases p with
    | idle =>
        rcases allowed with prompt | ⟨key, rfl⟩ | ⟨q, rfl, sound, flag⟩
        · exact absurd (Request.isAside_of_isPrompt prompt) aside
        · exact h.claim key
        · have other : q.key ≠ k := fun same => runsOnce (same ▸ flag)
          exact h.start sound (by simp [Phase.holds, other]) rfl
    | claiming key =>
        rcases allowed with rfl | rfl
        · exact absurd rfl aside
        · exact h.release (by simp [Phase.holds])
            (fun k' other => by simp [Phase.holds, Ne.symm other]) fun _ => rfl
    | cleared key =>
        obtain ⟨q, rfl, sound, rfl⟩ := allowed
        exact h.start sound rfl rfl
    | due o =>
        rcases allowed with prompt | ⟨e, rfl, _⟩ | rfl
        · exact absurd (Request.isAside_of_isPrompt prompt) aside
        · refine (h.of_phase ?_).of_sameBook (w.sameBook_openExecution e)
          cases (w.answer (.openExecution e)).1 <;> rfl
        · exact h.release (by simp [Phase.holds])
            (fun k' other => by simp [Phase.holds, Ne.symm other]) fun _ => rfl
    | running o e =>
        rcases allowed with prompt | ⟨e', rfl | rfl, _⟩ | rfl
        · exact absurd (Request.isAside_of_isPrompt prompt) aside
        · refine (h.of_phase ?_).of_sameBook (w.sameBook_publishExecution e')
          rfl
        · refine (h.of_phase ?_).of_sameBook (w.sameBook_finishExecution e')
          rfl
        · exact h.release (by simp [Phase.holds])
            (fun k' other => by simp [Phase.holds, Ne.symm other]) fun _ => rfl
    | released => cases allowed
    | aside => exact absurd allowed aside

theorem begun (h : Held declared k w ps) {front back : List Background} {work : Background}
    (queued : w.queue = front ++ work :: back) :
    Held declared k { w with queue := front ++ back } (ps ++ [Duty.begins work]) := by
  have waits := World.waiting_of_queued queued
  refine ⟨?_, fun q hq => h.sound q (waits.mem_iff.mpr (List.mem_append_right _ hq)), h.flags⟩
  have one := h.one
  simp only [holders, waits.countP_eq, List.countP_append, List.countP_singleton] at one ⊢
  cases work with
  | run q =>
      simpa [Background.run?, Duty.begins, Phase.holds, QueuedRun.outline, QueuedRun.origin,
        Nat.add_assoc, Nat.add_left_comm] using one
  | delivery job =>
      simpa [Background.run?, Duty.begins, Phase.holds, Nat.add_assoc] using one

/-- A run that begins is for the workflow and the record that its key names. -/
theorem sound_of_queued (h : Held declared k w ps) {q : QueuedRun}
    (queued : .run q ∈ w.queue) : q.IsSound :=
  h.sound q.outline (List.mem_filterMap.mpr ⟨.run q, queued, rfl⟩)

end Held

/-- What a definition or an entry is answered with is to be reckoned with. -/
theorem expected_answer {declared : Uid × Bool → Prop} {w : World}
    (flags : ∀ d ∈ w.store.flags, declared d) (r : Request) :
    Duty.expects declared r (w.answer r).1 := by
  cases r with
  | listActive t kind =>
      rcases w.answer_cases (.listActive t kind) with ⟨no, _⟩ | ⟨f, faults, h⟩ | ⟨faults, h⟩
      · cases no
      · rw [h]
        trivial
      · rw [h]
        show Duty.expects declared (.listActive t kind) (w.store.listActive t kind)
        cases listed : w.store.listActive t kind with
        | error f => trivial
        | ok ws => exact fun v hv => flags _ (mem_flags_of_listActive listed hv)
  | openExecution e =>
      cases h : w.answer (.openExecution e) with
      | mk x w' =>
          cases x with
          | error f => trivial
          | ok e' => exact ⟨_, (World.openExecution_ok h).1⟩
  | log entry => trivial
  | _ => trivial

end RecordFlow
