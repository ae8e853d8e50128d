/-
# Sequential runs — programs one after the other

The run of a composed program is told by the runs of its parts, so a run is
followed step by step with these equations.  A turn of a task is its whole run
where the program neither yields nor has to wait: `runTurn_eq_run`.  The run of
an action is told by the run of its kind: `Runner.execute_read`.
-/
import RecordFlow.Engine.Schedule
import RecordFlow.Proofs.Conduct

namespace RecordFlow

namespace Prog

variable {α β : Type}

@[simp] theorem run_pure (a : α) (w : World) : (pure a : Prog α).run w = (.ok a, w) := rfl

theorem run_bind (m : Prog α) (rest : α → Prog β) (w : World) :
    (m >>= rest).run w = match m.run w with
      | (.ok a, w) => (rest a).run w
      | (.error e, w) => (.error e, w) := by
  show (m.bind rest).run w = _
  induction m generalizing w with
  | done a => rfl
  | fail e => rfl
  | call r branch ih => exact ih _ _

@[simp] theorem run_attempt (m : Prog α) (w : World) :
    m.attempt.run w = (.ok (m.run w).1, (m.run w).2) := by
  induction m generalizing w with
  | done a => rfl
  | fail e => rfl
  | call r branch ih => exact ih _ _

@[simp] theorem run_ask (r : Request) (w : World) : (ask r).run w = w.answer r := by
  simp only [ask, run]
  cases h : (w.answer r).1 with
  | ok a => rw [run, ← h]
  | error e => rw [run, ← h]

theorem run_ask_bind (r : Request) (rest : r.Answer → Prog β) (w : World) :
    (ask r >>= rest).run w = match w.answer r with
      | (.ok a, w) => (rest a).run w
      | (.error e, w) => (.error e, w) := by
  rw [run_bind, run_ask]
  rcases w.answer r with ⟨_ | _, _⟩ <;> rfl

@[simp] theorem run_ofExcept (x : Except Failure α) (w : World) :
    (ofExcept x).run w = (x, w) := by
  cases x <;> rfl

/-- Where a first part has come to a value, the rest goes on from there. -/
theorem run_bind_ok {m : Prog α} {rest : α → Prog β} {w w' : World} {a : α}
    (h : m.run w = (.ok a, w')) : (m >>= rest).run w = (rest a).run w' := by
  rw [run_bind, h]

/-- Where a first part has failed, so has the whole. -/
theorem run_bind_error {m : Prog α} {rest : α → Prog β} {w w' : World} {f : Failure}
    (h : m.run w = (.error f, w')) : (m >>= rest).run w = (.error f, w') := by
  rw [run_bind, h]

theorem run_attempt_bind (m : Prog α) (rest : Except Failure α → Prog β) (w : World) :
    (m.attempt >>= rest).run w = (rest (m.run w).1).run (m.run w).2 :=
  run_bind_ok (run_attempt m w)

theorem run_map (f : α → β) (m : Prog α) (w : World) :
    (f <$> m).run w = ((m.run w).1.map f, (m.run w).2) := by
  rw [map_eq_pure_bind, run_bind]
  rcases m.run w with ⟨_ | _, _⟩ <;> rfl

/-- A whole that has come to a value has done so through its first part. -/
theorem ok_of_run_bind {m : Prog α} {rest : α → Prog β} {w : World} {b : β}
    (h : ((m >>= rest).run w).1 = .ok b) :
    ∃ a w', m.run w = (.ok a, w') ∧ ((rest a).run w').1 = .ok b := by
  rw [run_bind] at h
  cases hm : m.run w with
  | mk x w' =>
      cases x with
      | ok a => exact ⟨a, w', rfl, by simpa [hm] using h⟩
      | error e => simp [hm] at h

/-- What no answer breaks holds at the end of a run. -/
theorem run_keeps (Kept : World → Prop) (answered : ∀ w r, Kept w → Kept (w.answer r).2)
    (p : Prog α) {w : World} (kept : Kept w) : Kept (p.run w).2 := by
  induction p generalizing w with
  | done a => exact kept
  | fail e => exact kept
  | call r branch ih => exact ih _ (answered w r kept)

/-! ## Turns -/

section

variable {r : Request} {rest : Except Failure r.Answer → Prog Unit} {w : World}

theorem runTurn_call (stays : yields r = false) (ready : w.isReady r = true) :
    (call r rest).runTurn w = (rest (w.answer r).1).runTurn (w.answer r).2 := by
  simp only [runTurn, ready, stays, if_true]
  rfl

theorem runTurn_yield (lets : yields r = true) (ready : w.isReady r = true) :
    (call r rest).runTurn w = (some (rest (w.answer r).1), (w.answer r).2) := by
  simp only [runTurn, ready, lets, if_true]

theorem runTurn_wait (waits : w.isReady r = false) :
    (call r rest).runTurn w = (some (call r rest), w) := by
  simp [runTurn, waits]

end

/-- A program that keeps to a code by which it neither yields nor has to wait is done in one
turn. -/
theorem runTurn_eq_run {φ : Type} {c : Conduct φ} {Tied : World → φ → Prop}
    (answered : ∀ w p r, Tied w p → c.may p r →
      c.expects r (w.answer r).1 ∧ Tied (w.answer r).2 (c.next p r (w.answer r).1))
    (steady : ∀ w p r, Tied w p → c.may p r → yields r = false ∧ w.isReady r = true)
    {m : Prog Unit} {p : φ} {w : World} {wanted : Except Failure Unit → φ → Prop}
    (h : m.Leads c wanted p) (tied : Tied w p) : m.runTurn w = (none, (m.run w).2) := by
  induction m generalizing p w with
  | done a => rfl
  | fail e => rfl
  | call r branch ih =>
      obtain ⟨stays, ready⟩ := steady w p r tied h.1
      obtain ⟨expected, still⟩ := answered w p r tied h.1
      rw [runTurn_call stays ready]
      exact ih _ (h.2 _ expected) still

end Prog

/-! ## One program to its end, among others -/

/-- Whether a program that is let run never has to wait. -/
def Prog.isFree {α : Type} : Prog α → World → Bool
  | .call r rest, w => w.isReady r && (rest (w.answer r).1).isFree (w.answer r).2
  | _, _ => true

/-- What is left of a program is another one. -/
theorem Prog.rest_ne {α : Type} (m : Prog α) {r : Request}
    {rest : Except Failure r.Answer → Prog α} (same : m = .call r rest)
    (x : Except Failure r.Answer) : rest x ≠ m := by
  induction m generalizing r with
  | done a => cases same
  | fail e => cases same
  | call r' branch ih =>
      cases same
      intro again
      exact ih x again x rfl

/-- A program never has to wait where all that it may ask can always be answered. -/
theorem Prog.Only.isFree {α : Type} {allowed : Request → Prop} {m : Prog α} (h : m.Only allowed)
    (ready : ∀ r, allowed r → ∀ w : World, w.isReady r = true) (w : World) :
    m.isFree w = true := by
  induction m generalizing w with
  | done a => rfl
  | fail e => rfl
  | call r rest ih => exact Bool.and_eq_true_iff.mpr ⟨ready r h.1 w, ih _ (h.2 _) _⟩

namespace System

variable {α : Type} {settings : Settings} {outside : World → World → Prop} {start : System α}

/-- What no step of a call breaks is so when the call has been let run to its end. -/
theorem runCall_keeps {Kept : System α → Prop} {tasks : List Task}
    (answered : ∀ w before after r rest, w.isReady r = true →
      Kept ⟨w, before ++ .call r rest :: after, tasks⟩ →
      Kept ⟨(w.answer r).2, before ++ rest (w.answer r).1 :: after, tasks⟩)
    {w : World} (before after : List (Prog α)) {m : Prog α}
    (kept : Kept ⟨w, before ++ m :: after, tasks⟩) (free : m.isFree w = true) :
    Kept ⟨(m.run w).2, before ++ Prog.ofExcept (m.run w).1 :: after, tasks⟩ := by
  induction m generalizing w with
  | done a => exact kept
  | fail e => exact kept
  | call r rest ih =>
      obtain ⟨ready, free⟩ := Bool.and_eq_true_iff.mp free
      exact ih _ (answered w before after r rest ready kept) free

/-- A call may be let run to its end. -/
theorem Reachable.runCall {w : World} (before after : List (Prog α)) {m : Prog α}
    {tasks : List Task}
    (h : Reachable settings outside start ⟨w, before ++ m :: after, tasks⟩)
    (free : m.isFree w = true) :
    Reachable settings outside start
      ⟨(m.run w).2, before ++ Prog.ofExcept (m.run w).1 :: after, tasks⟩ :=
  runCall_keeps (fun w before after r rest ready reached =>
    reached.step (.call w before after tasks r rest ready)) before after h free

/-- A task may be let run to its end. -/
theorem Reachable.runTask {w : World} {calls : List (Prog α)} (before after : List Task)
    {work : Background} {m : Prog Unit}
    (h : Reachable settings outside start ⟨w, calls, before ++ ⟨work, m⟩ :: after⟩)
    (free : m.isFree w = true) :
    Reachable settings outside start
      ⟨(m.run w).2, calls, before ++ ⟨work, Prog.ofExcept (m.run w).1⟩ :: after⟩ := by
  induction m generalizing w with
  | done a => exact h
  | fail e => exact h
  | call r rest ih =>
      obtain ⟨ready, free⟩ := Bool.and_eq_true_iff.mp free
      exact ih _ (h.step (.task w calls before after work r rest ready)) free

end System

/-! ## The run of an action -/

namespace Runner

variable {action : Action} {kind : ActionKind} {config : ActionConfig} {w w₀ : World}

/-- An action that is entered and can be read comes to an outcome, however performing it ends. -/
theorem execute_read (site : Site) (known : action.kind = .known kind)
    (entered : w.answer .enterRunner = (.ok (), w₀))
    (read : ActionConfig.read kind action.config = .ok config) :
    (execute site action).run w = match (perform site action kind config).run w₀ with
      | (.ok (status, result), w₁) =>
          (.ok { actionId := action.id, kind := .known kind, status, result }, w₁)
      | (.error f, w₁) =>
          (.ok (.failed action.id kind f.report),
            { w₁ with logs := w₁.logs ++ [actionFailed site action f] }) := by
  rw [execute, Prog.run_ask_bind, entered]
  simp only [known, read]
  rw [Prog.run_attempt_bind]
  show Prog.run _ _ = _
  have opened : (Prog.ofExcept (.ok config) >>= perform site action kind).run w₀
      = (perform site action kind config).run w₀ := rfl
  rw [opened]
  rcases (perform site action kind config).run w₀ with ⟨f | ⟨status, result⟩, w₁⟩ <;> rfl

/-- An action that is entered and cannot be read fails with what stopped the reading. -/
theorem execute_unread (site : Site) {f : Failure} (known : action.kind = .known kind)
    (entered : w.answer .enterRunner = (.ok (), w₀))
    (unread : ActionConfig.read kind action.config = .error f) :
    (execute site action).run w
      = (.ok (.failed action.id kind f.report),
          { w₀ with logs := w₀.logs ++ [actionFailed site action f] }) := by
  rw [execute, Prog.run_ask_bind, entered]
  simp only [known, unread]
  rw [Prog.run_attempt_bind]
  rfl

/-- An action succeeds with the value that its part comes to. -/
theorem execute_succeeds {w₁ : World} {v : Value} {part : Prog Value} (site : Site)
    (known : action.kind = .known kind) (entered : w.answer .enterRunner = (.ok (), w₀))
    (read : ActionConfig.read kind action.config = .ok config)
    (performs : perform site action kind config = (fun v => (.success, v)) <$> part)
    (ran : part.run w₀ = (.ok v, w₁)) :
    (execute site action).run w
      = (.ok { actionId := action.id, kind := .known kind, status := .success, result := v },
          w₁) := by
  rw [execute_read site known entered read, performs, Prog.run_map, ran]
  rfl

end Runner

end RecordFlow
