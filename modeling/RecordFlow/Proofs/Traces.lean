/-
# Traces — what a failed action leaves behind

An action that fails leaves no trace: but for the log, and for what is in store
of failures, the world is as it was before.  The one exception is an assignment
by turns.  It takes its turn before it writes the owner, so where there is
nothing to write to, the cursor of the rule has moved on, as it would have for
an assignment that succeeded; and nothing else has.

Told is this of the store in memory.  Of the sites that may be made to fail
only one is excepted: a tag that was made for a record is not taken back where
it cannot be attached.
-/
import RecordFlow.Proofs.Cursors
import RecordFlow.Proofs.Writes

namespace RecordFlow

namespace World

/-! ## Worlds that nothing was done to -/

/-- A world to which nothing was done but for the log and what is in store of failures. -/
def Untouched (w w' : World) : Prop := ∃ logs faults, w' = { w with logs, faults }

namespace Untouched

variable {u v w : World}

theorem refl (w : World) : w.Untouched w := ⟨w.logs, w.faults, rfl⟩

theorem trans (h : u.Untouched v) (h' : v.Untouched w) : u.Untouched w := by
  obtain ⟨_, _, rfl⟩ := h
  obtain ⟨logs, faults, rfl⟩ := h'
  exact ⟨logs, faults, rfl⟩

theorem store (h : w.Untouched v) : v.store = w.store := by
  obtain ⟨_, _, rfl⟩ := h
  rfl

theorem withFaults (w : World) (faults : List Fault) : w.Untouched { w with faults } :=
  ⟨w.logs, faults, rfl⟩

end Untouched

variable {w : World} {r : Request}

/-- What only looks leaves the world untouched. -/
theorem untouched_of_isReading (looks : r.isReading = true) : w.Untouched (w.answer r).2 := by
  refine answer_of_perform (Untouched.withFaults w) fun faults => ?_
  cases r with
  | log entry => exact ⟨_, faults, rfl⟩
  | _ => first | exact .withFaults w faults | cases looks

theorem storing_ok_of_memory {α : Type} {answer : α} {after : Except Failure Unit × Store}
    {also : World → World} (ok : after.1 = .ok ()) {e : Failure} :
    (w.storing answer after also).1 ≠ .error e := by
  obtain ⟨x, s⟩ := after
  obtain rfl : x = .ok () := ok
  exact nofun

theorem patching_error {t : String} {f : Adapter → Except Failure Adapter} {e : Failure}
    (failed : (w.patching t f).1 = .error e) : (w.patching t f).2 = w := by
  unfold patching at failed ⊢
  split
  · rename_i found
    rw [found] at failed
    cases failed
  · rfl

theorem perform_error (memory : w.store.isMemory = true) {e : Failure}
    (failed : (w.perform r).1 = .error e) : (w.perform r).2 = w := by
  obtain ⟨m, hm⟩ := Store.memory_of_isMemory memory
  cases r with
  | openExecution | createExecution | finishExecution | openDelivery | saveDelivery
  | fileDelivery =>
      refine absurd failed (storing_ok_of_memory ?_)
      simp only [hm]
      rfl
  | updateField | connectTag | disconnectTag => exact patching_error failed
  | advanceRotation id size =>
      simp only [perform] at failed ⊢
      split
      · rename_i found
        rw [found] at failed
        cases failed
      · rfl
  | claim k =>
      simp only [perform] at failed ⊢
      split at failed <;> cases failed
  | _ => first | rfl | cases failed

/-- A request that fails leaves the world untouched. -/
theorem untouched_of_error (memory : w.store.isMemory = true) {e : Failure}
    (failed : (w.answer r).1 = .error e) : w.Untouched (w.answer r).2 := by
  rcases w.answer_cases r with ⟨_, h⟩ | ⟨f, faults, h⟩ | ⟨faults, h⟩
  · rw [h]
    exact .refl w
  · rw [h]
    exact .withFaults w faults
  · rw [h] at failed ⊢
    rw [perform_error (w := { w with faults }) memory failed]
    exact .withFaults w faults

/-- A world whose store is in memory, and in which tags can be attached to the records of a
kind. -/
structure IsSturdy (w : World) (entityType : String) : Prop where
  memory : w.store.isMemory = true
  spared : w.Spares ("adapter." ++ entityType ++ ".connect_tag")

theorem IsSturdy.answer {t : String} (h : w.IsSturdy t) (r : Request) :
    (w.answer r).2.IsSturdy t :=
  ⟨(w.isMemory_answer r).trans h.memory, h.spared.answer r⟩

theorem IsSturdy.run {t : String} {α : Type} (h : w.IsSturdy t) (m : Prog α) :
    (m.run w).2.IsSturdy t :=
  m.run_keeps (IsSturdy · t) (fun _ r h => h.answer r) h

end World

/-! ## Programs that leave no trace where they fail -/

namespace Prog

variable {α β : Type} {t : String} {m : Prog α} {rest : α → Prog β}

/-- A program that fails leaves the world untouched, in a world that is sturdy. -/
def Traceless (t : String) (m : Prog α) : Prop :=
  ∀ (w w' : World) (f : Failure), w.IsSturdy t → m.run w = (.error f, w') → w.Untouched w'

theorem IsReading.untouched (looks : m.IsReading) (w : World) : w.Untouched (m.run w).2 :=
  looks.only.run w.Untouched
    (fun _ _ h looks => h.trans (World.untouched_of_isReading looks)) (.refl w)

theorem traceless_ask (t : String) (r : Request) : (ask r).Traceless t := by
  intro w w' f sturdy failed
  rw [run_ask] at failed
  have here := World.untouched_of_error sturdy.memory (congrArg Prod.fst failed)
  rwa [failed] at here

theorem traceless_pure (t : String) (a : α) : (pure a : Prog α).Traceless t :=
  fun _ _ _ _ failed => by cases failed

/-- What only looks may come first. -/
theorem traceless_bind (looks : m.IsReading) (goesOn : ∀ a, (rest a).Traceless t) :
    (m >>= rest).Traceless t := by
  intro w w' f sturdy failed
  have first := looks.untouched w
  rw [run_bind] at failed
  split at failed
  · rename_i a w₁ came
    have still := sturdy.run m
    rw [came] at first still
    exact first.trans (goesOn a w₁ w' f still failed)
  · rename_i e w₁ came
    rw [came] at first
    exact (Prod.mk.inj failed).2 ▸ first

/-- What cannot fail may come last. -/
theorem traceless_bind_sure (h : m.Traceless t)
    (sure : ∀ a w f, ((rest a).run w).1 ≠ .error f) : (m >>= rest).Traceless t := by
  intro w w' f sturdy failed
  rw [run_bind] at failed
  split at failed
  · exact absurd (congrArg Prod.fst failed) (sure _ _ _)
  · rename_i e w₁ came
    exact (Prod.mk.inj failed).2 ▸ h w w₁ e sturdy came

/-- A failure is not told otherwise. -/
theorem run_of_map_error {g : α → β} {w w' : World} {f : Failure}
    (failed : (g <$> m).run w = (.error f, w')) : m.run w = (.error f, w') := by
  rw [map_eq_pure_bind, run_bind] at failed
  split at failed
  · cases failed
  · rename_i e w₁ came
    obtain ⟨same, rfl⟩ := Prod.mk.inj failed
    rw [came, Except.error.inj same]

theorem traceless_map (h : m.Traceless t) (g : α → β) : (g <$> m).Traceless t :=
  fun w w' f sturdy failed => h w w' f sturdy (run_of_map_error failed)

/-- One request, and what is told of its answer. -/
theorem traceless_ask_pure (t : String) (r : Request) (g : r.Answer → β) :
    (ask r >>= fun a => pure (g a)).Traceless t :=
  traceless_bind_sure (traceless_ask t r) fun _ _ _ => nofun

end Prog

open Prog (ask traceless_ask traceless_pure traceless_bind traceless_bind_sure traceless_map
  traceless_ask_pure isReading_ask run_bind_ok run_bind_error)

namespace Runner

variable {t : String} {site : Site}

theorem traceless_sendEmail (c : EmailConfig) : (sendEmail site c).Traceless t := by
  refine traceless_bind (Prog.passes_ofExcept (Template.owned_fieldText _ _)) fun recipient => ?_
  refine traceless_bind (passes_render site _) fun subject => ?_
  refine traceless_bind (passes_render site _) fun body => ?_
  exact traceless_ask_pure t _ _

theorem traceless_createActivity (c : ActivityConfig) : (createActivity site c).Traceless t := by
  refine traceless_bind (passes_render site _) fun title => ?_
  refine traceless_bind (passes_render? site _) fun description => ?_
  exact traceless_ask_pure t _ _

theorem traceless_createTask (c : TaskConfig) : (createTask site c).Traceless t := by
  refine traceless_bind (isReading_ask rfl) fun now => ?_
  refine traceless_bind (Prog.passes_ofExcept (owned_dueDate _ _)) fun due => ?_
  refine traceless_bind (passes_render site _) fun title => ?_
  refine traceless_bind (passes_render? site _) fun description => ?_
  exact traceless_ask_pure t _ _

theorem traceless_sendWebhook (actionId : Uid) (c : WebhookConfig) :
    (sendWebhook site actionId c).Traceless t := by
  refine traceless_bind (passes_requestContent site c) fun content => ?_
  refine traceless_bind_sure ?_ fun _ _ _ => nofun
  refine traceless_bind (isReading_ask rfl) fun now => ?_
  exact traceless_bind_sure (traceless_ask t _) fun _ _ _ => nofun

theorem traceless_removeTag (c : TagConfig) : (removeTag site c).Traceless t := by
  refine traceless_bind (isReading_tagToChange site c) fun name => ?_
  cases name with
  | none => exact traceless_pure t _
  | some name =>
      refine traceless_bind (isReading_ask rfl) fun tag => ?_
      cases tag with
      | none => exact traceless_pure t _
      | some tag => exact traceless_ask_pure t _ _

/-- A tag is made only where it can be attached. -/
theorem traceless_addTag (c : TagConfig) :
    (addTag site c).Traceless site.context.entityType := by
  intro w w' f sturdy failed
  have looked : (tagToChange site c).run w
      = (.ok (if (w.registry.adapter? site.context.entityType).map (·.taggable) = some true
          then Assignment.given? c.tagName else none), w) := rfl
  rw [addTag, run_bind_ok looked] at failed
  split at failed
  · cases failed
  · rename_i name chosen
    obtain ⟨a, there, carries⟩ : ∃ a, w.registry.adapter? site.context.entityType = some a ∧
        a.taggable = true := by
      split at chosen
      · rename_i carries
        exact Option.map_eq_some_iff.mp carries
      · cases chosen
    cases made : w.answer (.upsertTag name) with
    | mk x w₁ =>
        have tried : (ask (.upsertTag name)).run w = (x, w₁) := (Prog.run_ask _ w).trans made
        cases x with
        | error e =>
            rw [run_bind_error tried] at failed
            have here := World.untouched_of_error sturdy.memory (congrArg Prod.fst made)
            rw [made] at here
            exact (Prod.mk.inj failed).2 ▸ here
        | ok tag =>
            have still := sturdy.answer (.upsertTag name)
            have registry := World.answer_registry (w := w) (r := .upsertTag name) rfl
            rw [made] at still registry
            rw [← registry] at there
            rw [run_bind_ok tried, Prog.run_ask_bind] at failed
            split at failed
            · cases failed
            · rename_i e w₂ refused
              rw [World.answer_connectTag still.spared there carries] at refused
              cases refused

end Runner

/-! ## Turns -/

/-- A rule after another has taken its turn: its cursor is at the place where it is that rule or
shares it. -/
def Filed.turned (rule : Filed AssignmentRule) (place : Int) (r : Filed AssignmentRule) :
    Filed AssignmentRule :=
  if r.record.id = rule.record.id then r.atPlace place
  else r.after rule.slot (World.atPlace place)

/-- The world after a rule of the store in memory has taken its turn. -/
def World.turned (w : World) (rule : Filed AssignmentRule) (place : Int) : World :=
  { w with
    store := match w.store with
      | .memory m => .memory { m with rules := m.rules.map (Filed.turned rule place) }
      | .relational s => .relational s
    rules := w.rules.map fun (key, r) => (key, r.after rule.slot (World.atPlace place)) }

namespace Filed

variable {α : Type} {slot : Option Nat} {f : α → α}

theorem after_after (once : ∀ a, f (f a) = f a) (r : Filed α) :
    (r.after slot f).after slot f = r.after slot f := by
  cases slot with
  | none => rfl
  | some s =>
      show edit s f (edit s f r) = edit s f r
      unfold edit
      by_cases here : r.slot = some s <;> simp [here, once]

theorem after_atPlace (place : Int) (r : Filed AssignmentRule) :
    (r.atPlace place).after slot (World.atPlace place) = r.atPlace place := by
  cases slot with
  | none => rfl
  | some s =>
      show edit s _ (r.atPlace place) = _
      unfold edit
      split <;> rfl

end Filed

theorem World.Untouched.turned {w v : World} (h : w.Untouched v) (rule : Filed AssignmentRule)
    (place : Int) : (w.turned rule place).Untouched (v.turned rule place) := by
  obtain ⟨logs, faults, rfl⟩ := h
  exact ⟨logs, faults, rfl⟩

namespace Assignment

variable {w : World} {m : MemoryStore} {rule : Filed AssignmentRule} {size : Int}

/-- An edit of the cursor that is made a second time changes nothing more. -/
theorem editRule_editRule (w : World) (slot : Option Nat) (place : Int) :
    (w.editRule slot (World.atPlace place)).editRule slot (World.atPlace place)
      = w.editRule slot (World.atPlace place) := by
  have once : ∀ r, World.atPlace place (World.atPlace place r) = World.atPlace place r :=
    fun _ => rfl
  have store : (w.store.editRule slot (World.atPlace place)).editRule slot (World.atPlace place)
      = w.store.editRule slot (World.atPlace place) := by
    cases w.store with
    | relational s => rfl
    | memory m =>
        simp only [Store.editRule, Filed.editAll_eq_map, List.map_map]
        congr 2
        exact List.map_congr_left fun r _ => Filed.after_after once r
  have rules : ((w.rules.map fun x => (x.1, x.2.after slot (World.atPlace place))).map
      fun x => (x.1, x.2.after slot (World.atPlace place)))
        = w.rules.map fun x => (x.1, x.2.after slot (World.atPlace place)) := by
    rw [List.map_map]
    exact List.map_congr_left fun x _ => congrArg (Prod.mk x.1) (Filed.after_after once x.2)
  exact congrArg₂ (fun s rs => { w with store := s, rules := rs }) store rules

/-- The store turns the rule, and the write-back of the place changes nothing more. -/
theorem turned_eq (hm : w.store = .memory m) (found : m.getRule rule.record.id = some rule)
    (place : Int) :
    (World.noteTurn rule.record.id (some place) (w.withStore (.memory { m with
      rules := Keyed.modify MemoryStore.ruleKey rule.record.id (Filed.atPlace place)
        m.rules }))).editRule rule.slot (World.atPlace place) = w.turned rule place := by
  have slot : Store.ruleSlot (.memory { m with
      rules := Keyed.modify MemoryStore.ruleKey rule.record.id (Filed.atPlace place) m.rules })
        rule.record.id = rule.slot := by
    have shown := Keyed.find?_modify_of (f := Filed.atPlace place) (fun _ => rfl) found
    exact congrArg (·.bind (·.slot)) shown
  rw [World.noteTurn, World.withStore, slot, editRule_editRule]
  have rules : Filed.editAll rule.slot (World.atPlace place)
      (Keyed.modify MemoryStore.ruleKey rule.record.id (Filed.atPlace place) m.rules)
        = m.rules.map (Filed.turned rule place) := by
    rw [Filed.editAll_eq_map, Keyed.modify, List.map_map]
    refine List.map_congr_left fun r _ => ?_
    show Filed.after _ _ (if r.record.id = rule.record.id then _ else _) = Filed.turned rule place r
    unfold Filed.turned
    split
    · exact Filed.after_atPlace place r
    · rfl
  simp only [World.editRule, Store.editRule, rules, World.turned, hm]
  rfl

/-- A rule of the store in memory takes its turn, unless the store fails. -/
theorem nextInTurn_cases (hm : w.store = .memory m)
    (found : m.getRule rule.record.id = some rule) (positive : 0 < size) :
    (∃ f w', (nextInTurn rule size).run w = (.error f, w') ∧ w.Untouched w') ∨
      ∃ w', (nextInTurn rule size).run w
          = (.ok (MemoryStore.nextPlace rule.record.cursor size), w') ∧
        (w.turned rule (MemoryStore.nextPlace rule.record.cursor size)).Untouched w' := by
  have advanced := MemoryStore.advanceRotation_eq found positive
  rcases w.answer_cases (.advanceRotation rule.record.id size) with
    ⟨no, _⟩ | ⟨f, faults, h⟩ | ⟨faults, h⟩
  · cases no
  · exact .inl ⟨f, _, run_bind_error ((Prog.run_ask _ w).trans h), .withFaults w faults⟩
  · refine .inr ⟨{ w.turned rule (MemoryStore.nextPlace rule.record.cursor size) with faults }, ?_,
      .withFaults _ faults⟩
    have turned := turned_eq (w := { w with faults }) hm found
      (MemoryStore.nextPlace rule.record.cursor size)
    simp only [World.perform, hm, Store.advanceRotation, advanced] at h
    refine (run_bind_ok ((Prog.run_ask _ w).trans h)).trans ?_
    exact congrArg (Prod.mk (Except.ok _)) turned

/-- The pool of a rule is found without doing anything, unless the team cannot be asked. -/
theorem candidatePool_looks (rule : AssignmentRule) (w : World) :
    (∃ f w', (candidatePool rule).run w = (.error f, w') ∧ w.Untouched w') ∨
      ∃ w', (candidatePool rule).run w = (.ok (w.poolOf rule), w') ∧ w.Untouched w' := by
  rcases candidatePool_cases rule w with known | ⟨team, -, -, draws, asks⟩
  · rw [known]
    exact .inr ⟨w, rfl, .refl w⟩
  · rw [asks, Prog.run_ask, draws]
    rcases w.answer_cases (.teamMembers team) with ⟨no, _⟩ | ⟨f, faults, h⟩ | ⟨faults, h⟩
    · cases no
    · exact .inl ⟨f, _, h, .withFaults w faults⟩
    · exact .inr ⟨_, h, .withFaults w faults⟩

/-- The place that is next for a rule. -/
def placeOf (w : World) (rule : Filed AssignmentRule) : Int :=
  MemoryStore.nextPlace rule.record.cursor (w.poolOf rule.record).length

/-- A rule that goes by turns does nothing, or takes its turn and comes to the user there. -/
theorem roundRobin_cases (hm : w.store = .memory m)
    (found : m.getRule rule.record.id = some rule) :
    w.Untouched ((roundRobin rule).run w).2 ∨
      ∃ w', (roundRobin rule).run w = (.ok (userAt (w.poolOf rule.record) (placeOf w rule)), w') ∧
        (w.turned rule (placeOf w rule)).Untouched w' := by
  rcases candidatePool_looks rule.record w with ⟨f, w₁, came, same⟩ | ⟨w₁, came, same⟩
  · rw [roundRobin, run_bind_error came]
    exact .inl same
  · rw [roundRobin, run_bind_ok came]
    by_cases empty : w.poolOf rule.record = []
    · rw [empty]
      exact .inl same
    · have filled : (w.poolOf rule.record).isEmpty = false := by simpa using empty
      have positive : 0 < ((w.poolOf rule.record).length : Int) := by
        exact_mod_cast List.length_pos_iff.mpr empty
      rw [filled, if_neg Bool.false_ne_true]
      rcases nextInTurn_cases (same.store.trans hm) found positive with
        ⟨f, w₂, came, still⟩ | ⟨w₂, came, turned⟩
      · rw [run_bind_error came]
        exact .inl (same.trans still)
      · rw [run_bind_ok came]
        exact .inr ⟨w₂, rfl, (same.turned rule _).trans turned⟩

/-- A configuration that has a rule of the store take its turn: it names no user but the rule,
which is active and goes by turns. -/
structure Draws (config : OwnerConfig) (w : World) (rule : Filed AssignmentRule) : Prop where
  nobody : given? config.userId = none
  names : ∃ reference, given? config.ruleId = some reference ∧
    ruleReference reference = .ok rule.record.id
  held : ∃ m, w.store = .memory m ∧ m.getRule rule.record.id = some rule
  active : rule.record.isActive = true
  turns : rule.record.method = .known .roundRobin

/-- The choice of a rule, if it is there and active. -/
def choice (id : Uid) (context : Context) : Prog (Option String) := do
  match ← ask (.getRule id) with
  | none => return none
  | some rule => if rule.record.isActive then resolve rule context else return none

/-- An owner is known without asking, or it is the choice of the rule that is named. -/
theorem ownerFor_eq (config : OwnerConfig) (context : Context) :
    (∃ x, ownerFor config context = Prog.ofExcept x) ∨
      ∃ reference id, given? config.userId = none ∧ given? config.ruleId = some reference ∧
        ruleReference reference = .ok id ∧ ownerFor config context = choice id context := by
  cases nobody : given? config.userId with
  | some user => exact .inl ⟨.ok (some user), by simp only [ownerFor, nobody]; rfl⟩
  | none =>
      cases names : given? config.ruleId with
      | none => exact .inl ⟨.ok none, by simp only [ownerFor, nobody, names]; rfl⟩
      | some reference =>
          cases reads : ruleReference reference with
          | error f => exact .inl ⟨.error f, by simp only [ownerFor, nobody, names, reads]; rfl⟩
          | ok id =>
              refine .inr ⟨reference, id, rfl, rfl, reads, ?_⟩
              simp only [ownerFor, nobody, names, reads]
              rfl

/-- To choose an owner nothing is done, unless a rule takes its turn. -/
theorem choice_cases (hm : w.store = .memory m) (id : Uid) (context : Context) :
    w.Untouched ((choice id context).run w).2 ∨ ∃ rule w', rule.record.id = id ∧
      m.getRule id = some rule ∧ rule.record.isActive = true ∧
      rule.record.method = .known .roundRobin ∧
      (choice id context).run w
        = (.ok (userAt (w.poolOf rule.record) (placeOf w rule)), w') ∧
      (w.turned rule (placeOf w rule)).Untouched w' := by
  rcases w.answer_cases (.getRule id) with ⟨no, _⟩ | ⟨f, faults, h⟩ | ⟨faults, h⟩
  · cases no
  · rw [choice, run_bind_error ((Prog.run_ask _ w).trans h)]
    exact .inl (.withFaults w faults)
  · have given : (ask (.getRule id)).run w = (.ok (m.getRule id), { w with faults }) := by
      rw [Prog.run_ask, h]
      simp only [World.perform, World.reading, hm]
      rfl
    rw [choice, run_bind_ok given]
    cases found : m.getRule id with
    | none => exact .inl (.withFaults w faults)
    | some rule =>
        obtain rfl : rule.record.id = id := (find?_mem found).2
        cases active : rule.record.isActive with
        | false =>
            simp only [active]
            exact .inl (.withFaults w faults)
        | true =>
            simp only [active, if_true]
            by_cases turns : rule.record.method = .known .roundRobin
            · rw [resolve_of_roundRobin turns]
              rcases roundRobin_cases (w := { w with faults }) hm found with
                same | ⟨w', came, turned⟩
              · exact .inl ((World.Untouched.withFaults w faults).trans same)
              · refine .inr ⟨rule, w', rfl, rfl, active, turns, came, ?_⟩
                exact ((World.Untouched.withFaults w faults).turned rule _).trans turned
            · exact .inl ((World.Untouched.withFaults w faults).trans
                ((isReading_resolve turns).untouched _))

/-- To find an owner nothing is done, unless a rule takes its turn. -/
theorem ownerFor_cases (config : OwnerConfig) (context : Context)
    (memory : w.store.isMemory = true) :
    w.Untouched ((ownerFor config context).run w).2 ∨ ∃ rule w', Draws config w rule ∧
      (ownerFor config context).run w
        = (.ok (userAt (w.poolOf rule.record) (placeOf w rule)), w') ∧
      (w.turned rule (placeOf w rule)).Untouched w' := by
  obtain ⟨m, hm⟩ := Store.memory_of_isMemory memory
  rcases ownerFor_eq config context with ⟨x, known⟩ | ⟨reference, id, nobody, names, reads, known⟩
  · rw [known, Prog.run_ofExcept]
    exact .inl (.refl w)
  · rw [known]
    rcases choice_cases hm id context with
      same | ⟨rule, w', rfl, found, active, turns, came, turned⟩
    · exact .inl same
    · exact .inr ⟨rule, w', ⟨nobody, ⟨reference, names, reads⟩, ⟨m, hm, found⟩, active, turns⟩,
        came, turned⟩

end Assignment

/-! ## Actions -/

namespace Runner

open Assignment (given? userAt placeOf Draws)

variable {site : Site} {w w' : World}

/-- Why the owner of a record is not written: there is no such record, or its write is made to
fail. -/
def Unwritable (site : Site) (w : World) : Prop :=
  w.registry.record? site.context.entityType site.context.entityId = none ∨
    ¬w.Spares ("adapter." ++ site.context.entityType ++ ".update_field")

theorem unwritable_of_error {field : String} {value : Value} {f : Failure}
    (failed : (w.answer (.updateField site.context.entityType site.context.entityId field
      value)).1 = .error f) : Unwritable site w := by
  by_contra writable
  simp only [Unwritable, not_or, not_not] at writable
  obtain ⟨there, spared⟩ := writable
  obtain ⟨a, found, fs, record⟩ : ∃ a, w.registry.adapter? site.context.entityType = some a ∧
      ∃ fs, a.record? site.context.entityId = some fs := by
    obtain ⟨fs, there⟩ := Option.ne_none_iff_exists'.mp there
    obtain ⟨a, found, record⟩ := Option.bind_eq_some_iff.mp there
    exact ⟨a, found, fs, record⟩
  have reachable : w.unreachable? (.updateField site.context.entityType site.context.entityId
      field value) = none := by
    simp [World.unreachable?, found]
  rw [World.answer_of_spared rfl spared rfl reachable] at failed
  simp [World.perform, World.patching, Registry.adapter, found, bind, Except.bind,
    Adapter.updateField, record] at failed

/-- What an assignment does when it has come to an owner. -/
def writeOwner (site : Site) (owner : Option String) : Prog Value := do
  if let some user := given? owner then
    ask (.updateField site.context.entityType site.context.entityId site.settings.ownerField
      (.text user))
  return .record [("ownerId", Value.ofText? owner)]

/-- An owner whose writing fails has a name, and nothing is done. -/
theorem writeOwner_fails {owner : Option String} {f : Failure} (memory : w.store.isMemory = true)
    (failed : (writeOwner site owner).run w = (.error f, w')) :
    w.Untouched w' ∧ (∃ user, given? owner = some user) ∧ Unwritable site w := by
  unfold writeOwner at failed
  cases given : given? owner with
  | none =>
      rw [given] at failed
      cases failed
  | some user =>
      simp only [given] at failed
      have tried := Prog.run_ask (.updateField site.context.entityType site.context.entityId
        site.settings.ownerField (.text user)) w
      cases answered : w.answer (.updateField site.context.entityType site.context.entityId
          site.settings.ownerField (.text user)) with
      | mk x w₁ =>
          rw [answered] at tried
          cases x with
          | ok _ =>
              rw [run_bind_ok tried] at failed
              cases failed
          | error e =>
              rw [run_bind_error tried] at failed
              have refused := congrArg Prod.fst answered
              have same := World.untouched_of_error memory refused
              rw [answered] at same
              exact ⟨(Prod.mk.inj failed).2 ▸ same, ⟨user, rfl⟩, unwritable_of_error refused⟩

/-- An assignment by turns that draws a user with a name, for a record that cannot be given
one. -/
structure DrawsInVain (site : Site) (config : OwnerConfig) (w : World)
    (rule : Filed AssignmentRule) : Prop where
  draws : Draws config w rule
  named : ∃ user, given? (userAt (w.poolOf rule.record) (placeOf w rule)) = some user
  unwritable : Unwritable site w

/-- An assignment that fails leaves no trace but the turn that it has taken. -/
theorem assignOwner_fails {config : OwnerConfig} {f : Failure} (memory : w.store.isMemory = true)
    (failed : (assignOwner site config).run w = (.error f, w')) :
    w.Untouched w' ∨ ∃ rule, DrawsInVain site config w rule ∧
      (w.turned rule (placeOf w rule)).Untouched w' := by
  have parts : assignOwner site config
      = Assignment.ownerFor config site.context >>= writeOwner site := rfl
  have spares {s : String} (spared : w.Spares s) :
      ((Assignment.ownerFor config site.context).run w).2.Spares s :=
    Prog.run_keeps (·.Spares s) (fun _ r h => h.answer r) _ spared
  have memory₁ : ((Assignment.ownerFor config site.context).run w).2.store.isMemory = true :=
    Prog.run_keeps (·.store.isMemory = true)
      (fun w r h => (w.isMemory_answer r).trans h) _ memory
  rw [parts] at failed
  rcases Assignment.ownerFor_cases config site.context memory with
    same | ⟨rule, w₁, draws, came, turned⟩
  · left
    rw [Prog.run_bind] at failed
    split at failed
    · rename_i owner w₁ came
      rw [came] at same memory₁
      exact same.trans (writeOwner_fails memory₁ failed).1
    · rename_i e w₁ came
      rw [came] at same
      exact (Prod.mk.inj failed).2 ▸ same
  · right
    rw [came] at spares memory₁
    rw [run_bind_ok came] at failed
    obtain ⟨still, named, unwritable⟩ := writeOwner_fails memory₁ failed
    refine ⟨rule, ⟨draws, named, ?_⟩, turned.trans still⟩
    have registry : w₁.registry = w.registry := by
      obtain ⟨_, _, rfl⟩ := turned
      rfl
    exact unwritable.imp (fun missing => registry ▸ missing) (mt spares)

/-- What is performed and fails leaves no trace but the turn that it has taken. -/
theorem perform_fails {action : Action} {kind : ActionKind} {config : ActionConfig} {f : Failure}
    (sturdy : w.IsSturdy site.context.entityType)
    (failed : (perform site action kind config).run w = (.error f, w')) :
    w.Untouched w' ∨ ∃ c rule, config = .owner c ∧ DrawsInVain site c w rule ∧
      (w.turned rule (placeOf w rule)).Untouched w' := by
  have succeed {m : Prog Value} (h : m.Traceless site.context.entityType)
      (failed : ((fun v => (OutcomeStatus.success, v)) <$> m).run w = (.error f, w')) :
      w.Untouched w' := traceless_map h _ w w' f sturdy failed
  cases config with
  | email c => exact .inl (succeed (traceless_sendEmail c) failed)
  | task c => exact .inl (succeed (traceless_createTask c) failed)
  | field c =>
      exact .inl (succeed (traceless_ask_pure _ _ _) failed)
  | webhook c => exact .inl (succeed (traceless_sendWebhook action.id c) failed)
  | owner c =>
      exact (assignOwner_fails sturdy.memory (Prog.run_of_map_error failed)).imp_right
        fun ⟨rule, vain, turned⟩ => ⟨c, rule, rfl, vain, turned⟩
  | tag c =>
      refine .inl (succeed ?_ failed)
      split
      · exact traceless_addTag c
      · exact traceless_removeTag c
  | activity c => exact .inl (succeed (traceless_createActivity c) failed)
  | delay c => cases failed
  | branch c =>
      refine .inl (succeed (traceless_bind ?_ fun _ => traceless_pure _ _) failed)
      exact Prog.passes_ofExcept (Condition.owned_evalAll _ _)

/-- The exception: a turn that an action takes for an owner that is not written. -/
structure TakesTurn (site : Site) (action : Action) (w : World) (rule : Filed AssignmentRule) :
    Prop where
  kind : action.kind = .known .assignOwner
  vain : ∃ config, ActionConfig.read .assignOwner action.config = .ok (.owner config) ∧
    DrawsInVain site config w rule

/-- What is read and performed, and fails, leaves no trace but the turn that it has taken. -/
theorem attempted_fails {action : Action} {kind : ActionKind} {f : Failure}
    (known : action.kind = .known kind) (sturdy : w.IsSturdy site.context.entityType)
    (failed : (Prog.ofExcept (ActionConfig.read kind action.config) >>= perform site action
      kind).run w = (.error f, w')) :
    w.Untouched w' ∨ ∃ rule, TakesTurn site action w rule ∧
      (w.turned rule (placeOf w rule)).Untouched w' := by
  cases read : ActionConfig.read kind action.config with
  | error e =>
      rw [read] at failed
      obtain ⟨-, rfl⟩ := Prod.mk.inj failed
      exact .inl (.refl w)
  | ok config =>
      rw [read] at failed
      have performed : (perform site action kind config).run w = (.error f, w') := failed
      refine (perform_fails sturdy performed).imp_right ?_
      rintro ⟨c, rule, rfl, vain, turned⟩
      obtain rfl := List.mem_singleton.mp (Accounting.mem_kinds_of_read read)
      exact ⟨rule, ⟨known, c, read, vain⟩, turned⟩

/-- A turn that is taken when the runner has been entered is taken in the world before. -/
theorem TakesTurn.of_entered {action : Action} {w₀ : World} {rule : Filed AssignmentRule}
    (entered : w.answer .enterRunner = (.ok (), w₀)) (h : TakesTurn site action w₀ rule) :
    TakesTurn site action w rule ∧ w.Untouched w₀ := by
  have same := World.untouched_of_isReading (w := w) (r := .enterRunner) rfl
  have spares {s : String} (spared : w.Spares s) := World.Spares.answer spared .enterRunner
  rw [entered] at same spares
  obtain ⟨kind, config, read, draws, named, unwritable⟩ := h
  have lost : Unwritable site w := by
    refine unwritable.imp (fun missing => ?_) (mt spares)
    obtain ⟨_, _, rfl⟩ := same
    exact missing
  refine ⟨⟨kind, config, read, ?_, ?_, lost⟩, same⟩
  · obtain ⟨_, _, rfl⟩ := same
    exact ⟨draws.nobody, draws.names, draws.held, draws.active, draws.turns⟩
  · obtain ⟨_, _, rfl⟩ := same
    exact named

/-! ## The theorem -/

/-- An action that fails leaves no trace: the world is as it was but for the log and what is in
store of failures; or the action is an assignment that has drawn its owner by turns and could not
write it, and then the world is as it was but for this and the cursor of the rule, which is at the
next place. -/
theorem failed_action_leaves_no_trace {site : Site} {action : Action} {w w' : World}
    {o : ActionOutcome} (sturdy : w.IsSturdy site.context.entityType)
    (ran : (execute site action).run w = (.ok o, w')) (failed : o.status = .failed) :
    w.Untouched w' ∨ ∃ rule, TakesTurn site action w rule ∧
      (w.turned rule (placeOf w rule)).Untouched w' := by
  have still := sturdy.answer .enterRunner
  have entering := World.untouched_of_isReading (w := w) (r := .enterRunner) rfl
  rw [execute, Prog.run_ask_bind] at ran
  split at ran
  case h_2 => cases ran
  case h_1 u w₀ entered =>
    rw [entered] at still entering
    cases known : action.kind with
    | foreign word =>
        simp only [known] at ran
        obtain rfl := Except.ok.inj (congrArg Prod.fst ran)
        cases failed
    | known kind =>
        simp only [known, Prog.run_attempt_bind] at ran
        cases came : (Prog.ofExcept (ActionConfig.read kind action.config) >>= perform site action
            kind).run w₀ with
        | mk x w₁ =>
            rw [came] at ran
            cases x with
            | ok x =>
                obtain rfl := Except.ok.inj (congrArg Prod.fst ran)
                have fine := (passes_attempted site action kind).ok_of_run (congrArg Prod.fst came)
                exact absurd failed fine
            | error e =>
                have logged : w₁.Untouched w' := by
                  obtain rfl : _ = w' := congrArg Prod.snd ran
                  exact ⟨_, w₁.faults, rfl⟩
                rcases attempted_fails known still came with same | ⟨rule, turn, turned⟩
                · exact .inl (entering.trans (same.trans logged))
                · obtain ⟨turn, before⟩ := turn.of_entered entered
                  refine .inr ⟨rule, turn, ?_⟩
                  obtain ⟨_, _, rfl⟩ := before
                  exact turned.trans logged

/-- The cursors of the rules of a store in memory. -/
def cursors (w : World) : List Int :=
  match w.store with
  | .memory m => m.rules.map (·.record.cursor)
  | .relational _ => []

/-- A rule that gives deals to two users by turns. -/
def alternating : AssignmentRule where
  id := ⟨5⟩
  entityType := "deals"
  method := .known .roundRobin
  userIds := ["ann", "bob"]

/-- A world with the rule, and without the deals. -/
def emptyDesk : World where
  store := .memory { rules := [⟨some 0, alternating⟩] }
  registry := [{ entityType := "deals" }]

/-- Where the owner of a deal is to be assigned. -/
def lostDeal : Site where
  settings := {}
  context := { entityType := "deals", entityId := "d1" }

/-- An owner assigned through the rule. -/
def assigning : Action where
  id := ⟨6⟩
  kind := .known .assignOwner
  config := .record [("assignmentRuleId", .text "00000000-0000-0000-0000-000000000005")]

/-- An assignment that fails, since there is no such deal, has moved the cursor of its rule. -/
theorem failed_assignment_took_turn :
    ∃ o w', (execute lostDeal assigning).run emptyDesk = (.ok o, w') ∧ o.status = .failed ∧
      cursors emptyDesk = [0] ∧ cursors w' = [1] := by
  refine ⟨_, _, rfl, rfl, rfl, rfl⟩

/-- A write to the deal that is not there. -/
def writing : Action where
  id := ⟨7⟩
  kind := .known .updateField
  config := .record [("field", .text "stage"), ("value", .text "won")]

theorem failed_write_untouched :
    emptyDesk.IsSturdy lostDeal.context.entityType ∧
      ∃ o w', (execute lostDeal writing).run emptyDesk = (.ok o, w') ∧ o.status = .failed ∧
        emptyDesk.Untouched w' := by
  have sturdy : emptyDesk.IsSturdy lostDeal.context.entityType := ⟨rfl, List.not_mem_nil⟩
  obtain ⟨o, w', ran, failed⟩ : ∃ o w', (execute lostDeal writing).run emptyDesk = (.ok o, w') ∧
      o.status = .failed := ⟨_, _, rfl, rfl⟩
  refine ⟨sturdy, o, w', ran, failed, ?_⟩
  rcases failed_action_leaves_no_trace sturdy ran failed with same | ⟨_, turn, _⟩
  · exact same
  · cases turn.kind

end Runner
end RecordFlow
