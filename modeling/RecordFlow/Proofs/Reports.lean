/-
# Reports — every failure leaves something to record

What is recorded of a failure is its message, or its name where the message is
empty.  The library's own failures have a message each, so only a collaborator
could leave nothing to record; where all that may be reported has a name or a
message, whatever the engine meets over the memory store is recorded in words.
-/
import RecordFlow.Proofs.Aside

namespace RecordFlow

/-! ## Adapters and the memory store -/

theorem Adapter.owned_countEqual (field : String) (value : Value)
    (records : List (String × Fields)) : Owned (countEqual field value records) := by
  induction records with
  | nil => exact owned_ok _
  | cons r records ih =>
      exact owned_bind (Value.owned_equal _ _) fun _ => owned_bind ih fun _ => owned_ok _

theorem Adapter.owned_updateField (a : Adapter) (id field : String) (value : Value) :
    Owned (a.updateField id field value) := by
  unfold updateField
  split
  · exact owned_error trivial
  · exact owned_ok _

theorem Registry.owned_adapter (r : Registry) (entityType : String) :
    Owned (r.adapter entityType) := by
  unfold adapter
  split
  · exact owned_ok _
  · exact owned_error trivial

theorem MemoryStore.owned_advanceRotation (m : MemoryStore) (id : Uid) (size : Int) :
    Owned (m.advanceRotation id size) := by
  unfold advanceRotation
  split
  · exact owned_ok _
  · split
    · exact owned_error trivial
    · exact owned_ok _

namespace World

theorem owned_patching (w : World) (t : String) {f : Adapter → Except Failure Adapter}
    (h : ∀ a, Owned (f a)) : Owned (w.patching t f).1 := by
  have changed : Owned (w.registry.adapter t >>= f) := owned_bind (w.registry.owned_adapter t) h
  unfold patching
  split
  · exact owned_ok _
  · rename_i e failed
    exact owned_error (changed e failed)

/-- What a site does over the memory store fails in the library's own ways only. -/
theorem owned_perform {w : World} (memory : w.store.isMemory = true) (r : Request) :
    Owned (w.perform r).1 := by
  obtain ⟨m, hm⟩ := Store.memory_of_isMemory memory
  cases r with
  | listEntityExecutions t id =>
      simp only [perform, reading, hm, Store.listEntityExecutions, MemoryStore.listEntityExecutions]
      split
      · exact owned_ok _
      · exact owned_error trivial
  | advanceRotation id size =>
      have moved : Owned (w.store.advanceRotation id size) := by
        rw [hm]
        exact owned_map _ (m.owned_advanceRotation id size)
      simp only [perform]
      split
      · exact owned_ok _
      · rename_i e failed
        exact owned_error (moved e failed)
  | snapshot t id => exact owned_bind (w.registry.owned_adapter t) fun _ => owned_ok _
  | countOwned t user =>
      exact owned_bind (w.registry.owned_adapter t) fun a => Adapter.owned_countEqual _ _ _
  | updateField t id field value => exact w.owned_patching t fun a => a.owned_updateField _ _ _
  | connectTag t id tag => exact w.owned_patching t fun a => owned_ok _
  | disconnectTag t id tag => exact w.owned_patching t fun a => owned_ok _
  | listActive | getWorkflow | openExecution | createExecution | finishExecution | getExecution
  | listExecutions | findByWorkflow | getRule | listRules | openDelivery | saveDelivery
  | fileDelivery | listDeliveries | listFailed =>
      simp only [perform, reading, storing, hm]
      first
        | exact owned_ok _
        | exact owned_error trivial
  | claim k =>
      simp only [perform]
      split <;> exact owned_ok _
  | _ => exact owned_ok _

end World

/-! ## Answers -/

/-- A computation that fails leaves something to record. -/
def Worded {α : Type} (x : Except Failure α) : Prop := ∀ f, x = .error f → f.report ≠ ""

theorem Owned.worded {α : Type} {x : Except Failure α} (h : Owned x) : Worded x :=
  fun f failed => Failure.report_ne_empty (h f failed)

namespace Fault

/-- A failure that a call meets is that of a fault, and the failures of faults stay as they are. -/
theorem meet_failures (site : String) (fs : List Fault) :
    (∀ e, (meet site fs).1 = some e → e ∈ fs.map failure) ∧
      (meet site fs).2.map failure = fs.map failure := by
  fun_induction meet site fs with
  | case1 | case2 =>
      refine ⟨?_, rfl⟩
      intro e met
      cases met
  | case3 f fs =>
      refine ⟨?_, rfl⟩
      intro e met
      obtain rfl := Option.some.inj met
      exact List.mem_cons_self
  | case4 f fs _ _ met rest heq ih =>
      rw [heq] at ih
      exact ⟨fun e h => List.mem_cons_of_mem _ (ih.1 e h), congrArg (f.failure :: ·) ih.2⟩

end Fault

namespace World

/-- Whatever failure is in store for a call has a name or a message. -/
def HasWords (w : World) : Prop := ∀ f ∈ w.faults.map Fault.failure, f.report ≠ ""

theorem answer_failures (w : World) (r : Request) :
    (w.answer r).2.faults.map Fault.failure = w.faults.map Fault.failure :=
  w.answer_faults_map r fun site => (Fault.meet_failures site w.faults).2

theorem HasWords.answer {w : World} (h : w.HasWords) (r : Request) : (w.answer r).2.HasWords := by
  rwa [HasWords, answer_failures]

theorem owned_unreachable {w : World} {r : Request} {f : Failure} (h : w.unreachable? r = some f) :
    f.IsOwn := by
  unfold unreachable? at h
  split at h
  any_goals split at h
  any_goals split at h
  all_goals cases h <;> trivial

/-- Over the memory store every failed answer leaves something to record. -/
theorem worded_answer {w : World} (h : w.HasWords) (memory : w.store.isMemory = true)
    (r : Request) : Worded (w.answer r).1 := by
  unfold answer
  split
  · refine Owned.worded ?_
    unfold unaddressed
    split
    · exact owned_ok _
    · exact owned_error trivial
  · split
    · rename_i f failed
      exact (owned_error (owned_unreachable failed)).worded
    · split
      · exact (owned_perform memory r).worded
      · rename_i site _
        have met := (Fault.meet_failures site w.faults).1
        split
        · rename_i e _ heq
          intro f failed
          obtain rfl := Except.error.inj failed
          exact h _ (met _ (by rw [heq]))
        · rename_i faults _
          exact (owned_perform (w := { w with faults }) memory r).worded

end World

/-! ## Actions -/

/-- What an outcome or a failure has to say of itself: of a failed action, why. -/
def Runner.Says : Except Failure ActionOutcome → Prop
  | .ok o => o.status = .failed → ∃ said, o.error = .text said ∧ said ≠ ""
  | .error f => f.report ≠ ""

/-- Where what can be asked along the way leaves the phase as it is, and answers with words only
are reckoned with, an action that fails says why. -/
theorem Runner.leads_execute {φ : Type} {c : Conduct φ} {p : φ} (site : Site) (action : Action)
    (idle : ∀ r, r.isPrompt = true → c.may p r ∧ ∀ x, c.next p r x = p)
    (answers : ∀ r e, c.expects r (.error e) → e.report ≠ "") :
    (execute site action).Leads c (fun x q => q = p ∧ Says x) p := by
  have asks {β : Type} {r : Request} {rest : r.Answer → Prog β}
      {wanted : Except Failure β → φ → Prop} (prompt : r.isPrompt = true)
      (fails : ∀ e : Failure, e.report ≠ "" → wanted (.error e) p)
      (goesOn : ∀ a, (rest a).Leads c wanted p) : (Prog.ask r >>= rest).Leads c wanted p := by
    obtain ⟨may, same⟩ := idle r prompt
    refine Prog.leads_ask_bind may ?_ ?_
    · intro e expected
      rw [same]
      exact fails e (answers r e expected)
    · intro a _
      rw [same]
      exact goesOn a
  refine asks rfl (fun e said => ⟨rfl, said⟩) fun _ => ?_
  cases action.kind with
  | foreign word => exact asks rfl (fun e said => ⟨rfl, said⟩) fun _ => ⟨rfl, nofun⟩
  | known kind =>
      have passes := ((passes_attempted site action kind).mono
        fun _ => Failure.report_ne_empty).weaken fun _ => Request.isPrompt_of_isOfAction
      refine Prog.leads_bind (Prog.leads_attempt ((passes.leads idle answers).mono ?_))
      rintro x q ⟨rfl, ended⟩
      cases x with
      | ok x => exact ⟨rfl, fun failed => absurd failed ended⟩
      | error f =>
          refine asks rfl (fun e said => ⟨rfl, said⟩) fun _ => ⟨rfl, fun _ => ?_⟩
          exact ⟨f.report, rfl, ended⟩

end RecordFlow
