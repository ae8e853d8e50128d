/-
# Branches — what a condition branch reports

A branch reports that its conditions are met just when every record in its list
can be read as a condition, and the condition holds: `branch_reports`.  A record
without an operator, or with one that there is not, does not hold, so with it in
the list the branch never reports so.

This is not so of what is no record.  It is passed over, in a list of any
length, and with nothing else in its list a branch reports for every entity that
its conditions are met: `garbledBranch_met`.
-/
import RecordFlow.Proofs.Configurations
import RecordFlow.Proofs.Sequential

namespace RecordFlow

namespace Condition

variable {entity : Fields} {cs : List Condition} {stored : Fields}

/-- Conditions hold together when each of them does. -/
theorem evalAll_eq_true_iff :
    evalAll entity cs = .ok true ↔ ∀ c ∈ cs, c.eval entity = .ok true := by
  induction cs with
  | nil => exact iff_of_true rfl (List.forall_mem_nil _)
  | cons c cs ih =>
      rw [evalAll, List.forall_mem_cons, ← ih]
      split
      · rename_i held
        exact (and_iff_right held).symm
      · rename_i other
        exact iff_of_false other fun both => other both.1

/-- A stored condition names an operator. -/
def NamesOperator (stored : Fields) : Prop :=
  ∃ op : Operator, storedText stored "operator" = .ok (Vocabulary.text op)

theorem not_namesOperator_of_missing (missing : stored.find? "operator" = none) :
    ¬ NamesOperator stored := by
  rintro ⟨op, named⟩
  rw [storedText, missing] at named
  have empty : "" = Vocabulary.text op := Except.ok.inj named
  cases op <;> exact absurd empty (by decide)

/-- A stored condition can be read, and holds. -/
def IsMet (entity stored : Fields) : Prop :=
  ∃ c, ofFields stored = .ok c ∧ c.eval entity = .ok true

/-- A stored condition that names no operator is not met. -/
theorem not_isMet_of_not_namesOperator (unnamed : ¬ NamesOperator stored) :
    ¬ IsMet entity stored := by
  rintro ⟨c, read, held⟩
  obtain ⟨field, -, read⟩ := ok_of_bind_ok read
  obtain ⟨word, named, read⟩ := ok_of_bind_ok read
  have foreign : (Vocabulary.find? word : Option Operator) = none := by
    rw [Vocabulary.find?, List.find?_eq_none]
    intro op _ same
    exact unnamed ⟨op, (eq_of_beq same).symm ▸ named⟩
  obtain rfl := Except.ok.inj read
  rw [eval, Open.ofText, foreign] at held
  cases held

end Condition

namespace ActionConfig

/-- The conditions that are read in a list hold when the records in it are met. -/
theorem evalAll_conditionsIn_iff {entity : Fields} {entries : List Value} {cs : List Condition}
    (read : conditionsIn entries = .ok cs) :
    Condition.evalAll entity cs = .ok true ↔
      ∀ fs, .record fs ∈ entries → Condition.IsMet entity fs := by
  rw [Condition.evalAll_eq_true_iff]
  constructor
  · intro all fs listed
    obtain ⟨c, mem, here⟩ := exists_of_mapM_ok read (mem_recordsIn.mpr listed)
    exact ⟨c, here, all c mem⟩
  · intro met c mem
    obtain ⟨fs, listed, here⟩ := mem_of_mapM_ok read mem
    obtain ⟨c', again, held⟩ := met fs (mem_recordsIn.mp listed)
    obtain rfl : c = c' := Except.ok.inj (here.symm.trans again)
    exact held

end ActionConfig

/-- An outcome reports that the conditions of its branch are met. -/
def ActionOutcome.ReportsMet (o : ActionOutcome) : Prop :=
  o.status = .success ∧ o.result = .record [("conditionsMet", .bool true)]

namespace Runner

variable (site : Site) {action : Action} {raw : Fields} {entries : List Value} {w w₀ : World}

/-- A branch does nothing to the world. -/
theorem decideBranch_run (c : BranchConfig) (w : World) :
    (decideBranch site c).run w = ((Condition.evalAll site.context.entity c.conditions).map
      fun met => .record [("conditionsMet", .bool met)], w) := by
  rw [decideBranch, Prog.run_bind, Prog.run_ofExcept]
  cases Condition.evalAll site.context.entity c.conditions <;> rfl

/-- A branch that is entered comes to an outcome, and reports that its conditions are met just when
they hold. -/
theorem execute_branch {c : BranchConfig} (branch : action.kind = .known .conditionBranch)
    (entered : w.answer .enterRunner = (.ok (), w₀))
    (read : ActionConfig.read .conditionBranch action.config = .ok (.branch c)) :
    ∃ o w', (execute site action).run w = (.ok o, w') ∧
      (o.ReportsMet ↔ Condition.evalAll site.context.entity c.conditions = .ok true) := by
  have ran := execute_read site branch entered read
  have told : (perform site action .conditionBranch (.branch c)).run w₀
      = ((Condition.evalAll site.context.entity c.conditions).map
          fun met => (.success, .record [("conditionsMet", .bool met)]), w₀) := by
    show ((fun v => (OutcomeStatus.success, v)) <$> decideBranch site c).run w₀ = _
    rw [Prog.run_map, decideBranch_run]
    cases Condition.evalAll site.context.entity c.conditions <;> rfl
  rw [told] at ran
  cases came : Condition.evalAll site.context.entity c.conditions with
  | ok met =>
      rw [came] at ran
      exact ⟨_, _, ran, by simp [ActionOutcome.ReportsMet]⟩
  | error f =>
      rw [came] at ran
      exact ⟨_, _, ran, by simp [ActionOutcome.ReportsMet, ActionOutcome.failed]⟩

/-- A branch comes to an outcome.  It reports that its conditions are met just when the records in
its list can be read and hold, each of them; so it never does with a record in the list that names
no operator. -/
theorem branch_reports (branch : action.kind = .known .conditionBranch)
    (stored : action.config = .record raw) (listed : raw.get "conditions" = .list entries)
    (entered : w.answer .enterRunner = (.ok (), w₀)) :
    ∃ o w', (execute site action).run w = (.ok o, w') ∧
      (o.ReportsMet ↔ ∀ fs, .record fs ∈ entries → Condition.IsMet site.context.entity fs) ∧
      ∀ fs, .record fs ∈ entries → ¬ Condition.NamesOperator fs → ¬ o.ReportsMet := by
  have stored : ActionConfig.read .conditionBranch action.config
      = ActionConfig.branch <$> BranchConfig.mk <$> ActionConfig.conditionsIn entries := by
    rw [stored, ← ActionConfig.readBranch_list listed]
    rfl
  obtain ⟨o, w', ran, reports⟩ : ∃ o w', (execute site action).run w = (.ok o, w') ∧
      (o.ReportsMet ↔ ∀ fs, .record fs ∈ entries → Condition.IsMet site.context.entity fs) := by
    cases read : ActionConfig.conditionsIn entries with
    | ok cs =>
        rw [read] at stored
        obtain ⟨o, w', ran, reports⟩ := execute_branch site branch entered stored
        exact ⟨o, w', ran, reports.trans (ActionConfig.evalAll_conditionsIn_iff read)⟩
    | error f =>
        rw [read] at stored
        refine ⟨_, _, execute_unread site branch entered stored, iff_of_false ?_ fun met => ?_⟩
        · simp [ActionOutcome.ReportsMet, ActionOutcome.failed]
        · -- one of the records cannot be read, so it is not met
          obtain ⟨fs, listed, failed⟩ := exists_of_mapM_error read
          obtain ⟨c, here, -⟩ := met fs (ActionConfig.mem_recordsIn.mp listed)
          rw [failed] at here
          cases here
  refine ⟨o, w', ran, reports, fun fs listed unnamed met => ?_⟩
  exact Condition.not_isMet_of_not_namesOperator unnamed (reports.mp met fs listed)

/-- Where a deal of five is decided on. -/
def smallDeal : Site where
  settings := {}
  context := { entityType := "deals", entityId := "d1", entity := [("amount", .int 5)] }

/-- A branch on a list of conditions. -/
def branchOn (entries : List Value) : Action where
  id := ⟨8⟩
  kind := .known .conditionBranch
  config := .record [("conditions", .list entries)]

/-- A condition that is garbled to a text is met by a deal that it is not to be met by; one that has
lost its operator is not. -/
theorem garbledBranch_met :
    (∃ o w', (execute smallDeal (branchOn [.text "amount > 10"])).run {} = (.ok o, w') ∧
      o.ReportsMet) ∧
    ∃ o w', (execute smallDeal (branchOn [.text "amount > 10", .record []])).run {} = (.ok o, w') ∧
      ¬ o.ReportsMet := by
  have entered : World.answer {} .enterRunner = (.ok (), {}) := rfl
  have branch (entries : List Value) : (branchOn entries).kind = .known .conditionBranch := rfl
  obtain ⟨o, w', ran, met, -⟩ := branch_reports smallDeal (branch [.text "amount > 10"])
    rfl rfl entered
  obtain ⟨o', w'', ran', -, unmet⟩ :=
    branch_reports smallDeal (branch [.text "amount > 10", .record []]) rfl rfl entered
  have unnamed : ¬ Condition.NamesOperator [] := Condition.not_namesOperator_of_missing rfl
  refine ⟨⟨o, w', ran, met.mpr fun fs listed => ?_⟩, o', w'', ran', unmet [] (by simp) unnamed⟩
  simp at listed

end Runner
end RecordFlow
