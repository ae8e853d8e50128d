/-
# Due dates — when a created task is due

A task may ask to be due in a whole number of days, as a number or written out.
The number goes through floating point and comes back as a length of time; as far
as the calendar reaches, nothing is lost on this way.  So a task is created with
the date that many days from now, and without a date if it asks for none:
`created_due`.

What is lost is zero, which counts as nothing: a task that is to be due on the
same day has no due date.
-/
import RecordFlow.Proofs.Configurations
import RecordFlow.Proofs.Sequential
import RecordFlow.Proofs.Substitution
import RecordFlow.Proofs.WholeNumbers

namespace RecordFlow

/-! ## Whole numbers in floating point -/

namespace Binary64

variable {x : Binary64} {n : Int}

/-- A whole number counts as nothing when it is zero. -/
theorem isZero_iff (whole : x.toInt? = some n) : x.isZero = true ↔ n = 0 := by
  obtain ⟨negative, c, rfl, rfl⟩ := toInt?_eq_some_iff.mp whole
  cases c with
  | zero =>
      rw [Nat.zero_mul]
      exact iff_of_true rfl (by cases negative <;> rfl)
  | succ c =>
      obtain ⟨u, units⟩ := Nat.exists_eq_succ_of_ne_zero
        (Nat.mul_ne_zero c.succ_ne_zero one_pos.ne')
      rw [units]
      refine iff_of_false (by simp [isZero]) ?_
      cases negative <;> simp only [signed] <;> omega

end Binary64

/-- A coefficient of at most 53 bits is the same in floating point. -/
theorem Decimal.nearest_whole (negative : Bool) {c : Nat} (short : c < 2 ^ 53) :
    nearest negative c 0 = .finite negative (c * Binary64.one) := by
  have size : (Digits.ofNat c).length ≤ 16 :=
    Nat.toDigits_length 10 c 16 (by decide) (Nat.lt_trans short (by decide))
  rw [nearest_unscaled negative (Nat.le_trans size (by decide)), Binary64.ofRatio_whole _ short]

namespace ActionConfig

variable {kind : ActionKind} {key : String} {raw : Fields} {n : Int}

/-- A whole number of at most 53 bits is read as it is. -/
theorem readNumber_of_counts {v : Value} (counts : v.Counts n) (short : n.natAbs < 2 ^ 53) :
    ∃ x, readNumber kind key v = .ok x ∧ x.toInt? = some n := by
  cases counts with
  | number =>
      obtain ⟨x, form, whole⟩ := Binary64.exists_ofInt? short
      exact ⟨x, readNumber_of_hasForm (.int form), whole⟩
  | numeral writes =>
      obtain ⟨negative, c, form, rfl⟩ := Numeral.toBinary64?_of_toInt? writes
      rw [Binary64.natAbs_signed] at short
      rw [Decimal.nearest_whole negative short] at form
      refine ⟨_, readNumber_of_hasForm (.text form), ?_⟩
      exact Binary64.toInt?_eq_some_iff.mpr ⟨negative, c, rfl, rfl⟩

theorem optionalNumber_of_counts (counts : (raw.get key).Counts n) (short : n.natAbs < 2 ^ 53) :
    ∃ x, optionalNumber kind raw key = .ok (some x) ∧ x.toInt? = some n := by
  have filled : (raw.get key).isBlank = false := by
    generalize raw.get key = v at counts
    cases counts with
    | number => rfl
    | numeral writes =>
        refine decide_eq_false ?_
        rintro rfl
        rw [show Numeral.toInt? "" = none by
          simp [Numeral.toInt?, Numeral.takeSign, Numeral.takeDigits]] at writes
        cases writes
  obtain ⟨x, read, whole⟩ : ∃ x, readNumber kind key (raw.get key) = .ok x ∧ x.toInt? = some n :=
    readNumber_of_counts counts short
  exact ⟨x, by simp [optionalNumber, filled, read], whole⟩

end ActionConfig

/-! ## Days -/

namespace Instant

variable {n : Int} {now due : Instant}

/-- Days that the calendar reaches are few. -/
theorem few_of_shift? (dated : now.civil < limit)
    (moved : now.shift? (n * microsPerDay) = some due) : n.natAbs ≤ 3652059 := by
  unfold shift? at moved
  obtain ⟨inside, -⟩ := Option.ite_none_right_eq_some.mp moved
  obtain ⟨since, before⟩ := Bool.and_eq_true_iff.mp inside
  have since := of_decide_eq_true since
  have before := of_decide_eq_true before
  simp only [limit, dayCount, microsPerDay, microsPerSecond] at dated since before
  omega

theorem checked_days (few : n.natAbs ≤ 999999999) :
    checked (n * microsPerDay) = .ok (n * microsPerDay) := by
  have days : (n * (microsPerDay : Int)).fdiv microsPerDay = n :=
    Int.mul_fdiv_cancel n (by decide)
  have countable : Int.pow 2 31 = 2147483648 := rfl
  unfold checked
  simp only [days, countable]
  rw [if_neg (by simp; omega), if_neg (by simp; omega)]

/-- A whole number of days is as long as it should be. -/
theorem spanOfDays_whole {x : Binary64} (whole : x.toInt? = some n) (few : n.natAbs ≤ 999999999) :
    spanOfDays x = .ok (n * microsPerDay) := by
  obtain ⟨negative, c, rfl, rfl⟩ := Binary64.toInt?_eq_some_iff.mp whole
  -- whole days count exactly, and there is no fraction of a day that could be rounded
  have rounded : Binary64.roundUnits 0 1 = 0 := by decide
  have even : Binary64.divEven 0 Binary64.one = 0 := by
    simp [Binary64.divEven, Binary64.one_pos]
  have micros : microsOf microsPerDay negative (c * Binary64.one)
      = Binary64.signed negative c * microsPerDay := by
    simp only [microsOf, Nat.mul_mod_left, Nat.zero_mul, rounded, even,
      Nat.mul_div_cancel c Binary64.one_pos, Nat.add_zero]
    cases negative <;> simp [Binary64.signed]
  rw [spanOfDays, spanOf, micros, checked_days few]

end Instant

namespace Runner

variable {action : Action} {w : World}

/-- When a task is due that asks so at a time: not at all, if it asks for nothing, or for zero days;
else the days that it asks for from then. -/
inductive DueBy (now : Instant) : Value → Option Instant → Prop
  | unasked {v : Value} : v.isBlank = true → DueBy now v none
  | today {v : Value} : v.Counts 0 → DueBy now v none
  | days {v : Value} {n : Int} {due : Instant} : v.Counts n → n ≠ 0 →
      now.shift? (n * Instant.microsPerDay) = some due → DueBy now v (some due)

theorem dueDate_zero {x : Binary64} (now : Instant) (zero : x.isZero = true) :
    dueDate now (some x) = .ok none := by
  have dropped : (some x).filter (!·.isZero) = none := by simp [Option.filter, zero]
  rw [dueDate, dropped]

theorem dueDate_days {x : Binary64} {n : Int} {now due : Instant} (whole : x.toInt? = some n)
    (nonzero : n ≠ 0) (few : n.natAbs ≤ 999999999)
    (moved : now.shift? (n * Instant.microsPerDay) = some due) :
    dueDate now (some x) = .ok (some due) := by
  have kept : (some x).filter (!·.isZero) = some x := by
    have counts : x.isZero = false :=
      Bool.eq_false_iff.mpr (mt (Binary64.isZero_iff whole).mp nonzero)
    simp [Option.filter, counts]
  simp only [dueDate, kept, Instant.spanOfDays_whole whole few, moved]

/-- A task is read with a number of days that leads to its date. -/
theorem DueBy.read {raw : Fields} {key : String} {now : Instant} {due : Option Instant}
    (h : DueBy now (raw.get key) due) (kind : ActionKind) (dated : now.civil < Instant.limit) :
    ∃ days, ActionConfig.optionalNumber kind raw key = .ok days ∧ dueDate now days = .ok due := by
  generalize stored : raw.get key = v at h
  cases h with
  | unasked blank => exact ⟨none, by simp [ActionConfig.optionalNumber, stored, blank], rfl⟩
  | today counts =>
      obtain ⟨x, read, whole⟩ :=
        ActionConfig.optionalNumber_of_counts (stored ▸ counts) (by decide)
      exact ⟨some x, read, dueDate_zero now ((Binary64.isZero_iff whole).mpr rfl)⟩
  | days counts nonzero moved =>
      have few := Instant.few_of_shift? dated moved
      obtain ⟨x, read, whole⟩ :=
        ActionConfig.optionalNumber_of_counts (stored ▸ counts) (by omega)
      exact ⟨some x, read, dueDate_days whole nonzero (by omega) moved⟩

/-- Where a task is asked for, it is created as it is to be, under a new identifier; or none is
created, which the site is to fail for. -/
theorem answer_createTask (w : World) (t : TaskRecord) :
    ((w.answer (.createTask t)).2.services.tasks = w.services.tasks ∧
        ¬ w.Spares "services.create_task") ∨
      ∃ id, (w.answer (.createTask t)).2.services.tasks = w.services.tasks ++ [{ t with id }] := by
  rcases w.answer_cases (.createTask t) with ⟨alone, -⟩ | ⟨e, faults, failed⟩ | ⟨faults, served⟩
  · cases alone
  · refine .inl ⟨by rw [failed], fun spared => ?_⟩
    rw [World.answer_of_spared rfl spared rfl rfl] at failed
    cases failed
  · exact .inr ⟨_, by rw [served]; rfl⟩

/-- The runner is entered, unless it is to fail. -/
theorem answer_enterRunner (w : World) :
    (∃ e faults, w.answer .enterRunner = (.error e, { w with faults }) ∧
        ¬ w.Spares "runner.execute") ∨
      ∃ faults, w.answer .enterRunner = (.ok (), { w with faults }) := by
  rcases w.answer_cases .enterRunner with ⟨alone, -⟩ | ⟨e, faults, failed⟩ | ⟨faults, entered⟩
  · cases alone
  · refine .inl ⟨e, faults, failed, fun spared => ?_⟩
    rw [World.answer_of_spared rfl spared rfl rfl] at failed
    cases failed
  · exact .inr ⟨faults, entered⟩

/-- The texts of a task can be written out: those that are stored for it, and what the templates of
its title and description read of the record. -/
structure Expressible (raw entity : Fields) : Prop where
  stored : ∀ key ∈ ["title", "description", "assigneeId", "priority"], ¬ (raw.get key).HoldsLong
  templates : ∀ key ∈ ["title", "description"], ∀ template,
    ActionConfig.optionalText raw key = .ok (some template) → ¬ Template.ReadsLong entity template

theorem not_readsLong_of_default (entity : Fields) :
    ¬ Template.ReadsLong entity "Workflow Task" := by
  have plain : Template.pieces "Workflow Task" = "Workflow Task".toList.map .char := by decide
  rintro ⟨piece, mem, p, v, rfl, -⟩
  rw [plain] at mem
  simp at mem

/-- A task whose days are read is read with them, unless one of its texts cannot be written out. -/
theorem readTask_cases {raw : Fields} {days : Option Binary64}
    (number : ActionConfig.optionalNumber .createTask raw "dueInDays" = .ok days) :
    (∃ c, ActionConfig.readTask raw = .ok c ∧ c.dueInDays = days ∧
        ActionConfig.textOr "Workflow Task" raw "title" = .ok c.title ∧
        ActionConfig.optionalText raw "description" = .ok c.description) ∨
      ∃ f, ActionConfig.readTask raw = .error f ∧ ∀ entity, ¬ Expressible raw entity := by
  cases read : ActionConfig.readTask raw with
  | ok c =>
      obtain ⟨title, titled, read⟩ := ok_of_bind_ok read
      obtain ⟨description, described, read⟩ := ok_of_bind_ok read
      obtain ⟨days', number', read⟩ := ok_of_bind_ok read
      obtain ⟨_, -, read⟩ := ok_of_bind_ok read
      obtain ⟨_, -, read⟩ := ok_of_bind_ok read
      obtain rfl := Except.ok.inj (number.symm.trans number')
      obtain rfl := Except.ok.inj read
      exact .inl ⟨_, rfl, rfl, titled, described⟩
  | error f =>
      -- reading fails with a trouble, and it is not one with the days
      have comes := ActionConfig.readFields_comesTo .createTask raw
      rw [ActionConfig.readFields, read] at comes
      refine .inr ⟨f, rfl, fun entity fine => ?_⟩
      cases comes with
      | stopped split _ trouble =>
          have mem : _ ∈ ActionConfig.readings .createTask :=
            split ▸ List.mem_append_right _ List.mem_cons_self
          have kinds : ∀ r ∈ ActionConfig.readings .createTask, r = .number "dueInDays" ∨
              ∃ key ∈ ["title", "description", "assigneeId", "priority"], r = .text key := by
            decide
          rcases kinds _ mem with rfl | ⟨key, texts, rfl⟩
          · have told : ActionConfig.Reading.Told .createTask raw (.number "dueInDays") :=
              ActionConfig.told_number _
            rcases told with ⟨-, none⟩ | ⟨g, failed, -⟩
            · exact none f trouble
            · rw [ActionConfig.Reading.check, number] at failed
              cases failed
          · cases trouble with
            | text long => exact fine.stored key texts long

/-- A template is rendered unless it reads what cannot be written out. -/
theorem render_cases (site : Site) (template : String) (w : World) :
    (∃ s, (site.render template).run w = (.ok s, w)) ∨
      (site.render template).run w = (.error .tooManyDigits, w) ∧
        Template.ReadsLong site.context.entity template := by
  rw [Site.render, Prog.run_ofExcept]
  rcases Classical.em (Template.ReadsLong site.context.entity template) with long | short
  · exact .inr ⟨by rw [Template.render_of_readsLong long], long⟩
  · obtain ⟨texts, -, rendered⟩ := Template.exists_texts short
    exact .inl ⟨_, by rw [rendered]⟩

theorem render?_cases (site : Site) (template : Option String) (w : World) :
    (∃ s, (site.render? template).run w = (.ok s, w)) ∨
      (site.render? template).run w = (.error .tooManyDigits, w) ∧
        ∃ t, template = some t ∧ Template.ReadsLong site.context.entity t := by
  cases template with
  | none => exact .inl ⟨none, rfl⟩
  | some t =>
      rw [Site.render?, Prog.run_map]
      rcases render_cases site t w with ⟨s, rendered⟩ | ⟨failed, long⟩
      · exact .inl ⟨some s, by rw [rendered]; rfl⟩
      · exact .inr ⟨by rw [failed]; rfl, t, rfl, long⟩

/-- A task is asked for with the date that its days lead to by the clock, unless a template reads
what cannot be written out. -/
theorem createTask_cases (site : Site) {c : TaskConfig} {due : Option Instant}
    (dated : dueDate w.clock c.dueInDays = .ok due) :
    (∃ t : TaskRecord, t.dueDate = due ∧
        ((createTask site c).run w).2 = (w.answer (.createTask t)).2) ∨
      ((createTask site c).run w).2 = w ∧ ∃ template, (template = c.title ∨
        c.description = some template) ∧ Template.ReadsLong site.context.entity template := by
  rw [createTask, Prog.run_bind_ok (Prog.run_ask .now w), dated, Prog.run_bind_ok rfl]
  rcases render_cases site c.title w with ⟨title, titled⟩ | ⟨failed, long⟩
  · rw [Prog.run_bind_ok titled]
    rcases render?_cases site c.description w with ⟨description, described⟩ | ⟨failed, t, has, long⟩
    · rw [Prog.run_bind_ok described]
      refine .inl ⟨{
        title
        description
        priority := c.priority
        assigneeId := firstGiven [c.assigneeId, site.context.actorId] site.settings.systemUserId
        dueDate := due
        relatedType := site.context.entityType
        relatedId := site.context.entityId }, rfl, ?_⟩
      rw [Prog.run_ask_bind]
      split
      · rename_i asked
        rw [asked]
        rfl
      · rename_i asked
        rw [asked]
    · rw [Prog.run_bind_error failed]
      exact .inr ⟨rfl, t, .inr has, long⟩
  · rw [Prog.run_bind_error failed]
    exact .inr ⟨rfl, _, .inl rfl, long⟩

/-- What an action leaves of the services is what performing it leaves. -/
theorem execute_services (site : Site) {kind : ActionKind} {config : ActionConfig} {w₀ : World}
    (known : action.kind = .known kind) (entered : w.answer .enterRunner = (.ok (), w₀))
    (read : ActionConfig.read kind action.config = .ok config) :
    ((execute site action).run w).2.services
      = ((perform site action kind config).run w₀).2.services := by
  rw [execute_read site known entered read]
  rcases (perform site action kind config).run w₀ with ⟨_ | _, _⟩ <;> rfl

/-- An action that creates a task creates one that is due when it asks to be by the clock.  Or it
creates none; then the runner or the service is to fail, or one of the texts of the task cannot be
written out. -/
theorem created_due {raw : Fields} {due : Option Instant} (site : Site)
    (creates : action.kind = .known .createTask)
    (stored : ActionConfig.fieldsIn action.config = some raw)
    (dated : w.clock.civil < Instant.limit) (asks : DueBy w.clock (raw.get "dueInDays") due) :
    (((execute site action).run w).2.services.tasks = w.services.tasks ∧
        ¬ (w.Spares "runner.execute" ∧ w.Spares "services.create_task" ∧
          Expressible raw site.context.entity)) ∨
      ∃ t, ((execute site action).run w).2.services.tasks = w.services.tasks ++ [t] ∧
        t.dueDate = due := by
  obtain ⟨days, number, leads⟩ := asks.read .createTask dated
  have reading : ActionConfig.read .createTask action.config
      = ActionConfig.task <$> ActionConfig.readTask raw := by
    rw [ActionConfig.read_eq, stored]
    rfl
  rcases answer_enterRunner w with ⟨e, faults, failed, faulty⟩ | ⟨faults, entered⟩
  · -- the action does not begin, and nothing is asked of the service
    refine .inl ⟨?_, fun fine => faulty fine.1⟩
    rw [execute, Prog.run_ask_bind, failed]
  · rcases readTask_cases number with ⟨c, read, rfl, titled, described⟩ | ⟨f, unread, texts⟩
    · rw [read] at reading
      rw [execute_services site creates entered reading]
      have performed : ((perform site action .createTask (.task c)).run { w with faults }).2
          = ((createTask site c).run { w with faults }).2 := by
        show (Prog.run ((fun v => (OutcomeStatus.success, v)) <$> createTask site c) _).2 = _
        rw [Prog.run_map]
      rw [performed]
      rcases createTask_cases (w := { w with faults }) site leads with
        ⟨t, rfl, created⟩ | ⟨none, template, used, long⟩
      · rw [created]
        rcases answer_createTask { w with faults } t with ⟨none, faulty⟩ | ⟨id, made⟩
        · refine .inl ⟨none, fun fine => faulty ?_⟩
          have still := fine.2.1.answer .enterRunner
          rwa [entered] at still
        · exact .inr ⟨_, made, rfl⟩
      · refine .inl ⟨by rw [none], fun spared => ?_⟩
        have fine := spared.2.2
        rcases used with rfl | given
        · obtain ⟨title, read, chosen⟩ := ok_of_bind_ok titled
          obtain rfl | ⟨t, rfl⟩ := Option.eq_none_or_eq_some title
          · obtain default : "Workflow Task" = c.title := Except.ok.inj chosen
            exact not_readsLong_of_default _ (default ▸ long)
          · obtain same : t = c.title := Except.ok.inj chosen
            exact fine.templates "title" (by decide) t read (same ▸ long)
        · rw [given] at described
          exact fine.templates "description" (by decide) template described long
    · -- a text of the configuration cannot be read, and nothing is asked of the service
      rw [unread] at reading
      rw [execute_unread site creates entered reading]
      exact .inl ⟨rfl, fun fine => texts _ fine.2.2⟩

/-- Where a reminder is made of a contact. -/
def contactBook : Site where
  settings := {}
  context := { entityType := "contacts", entityId := "c1", entity := [] }

/-- A task to be done in a number of days. -/
def reminder (days : Value) : Action where
  id := ⟨9⟩
  kind := .known .createTask
  config := .record [("dueInDays", days)]

/-- A task that is asked for with its days alone has no text that cannot be written out. -/
theorem expressible_days (days : Value) (entity : Fields) :
    Expressible [("dueInDays", days)] entity := by
  have missing {key : String} (other : key ≠ "dueInDays") :
      Fields.get [("dueInDays", days)] key = .null := by
    rw [Fields.get, Fields.find?, List.lookup_cons, beq_eq_false_iff_ne.mpr other]
    rfl
  constructor
  · intro key texts
    have other : key ≠ "dueInDays" := fun same => absurd (same ▸ texts) (by decide)
    exact missing other ▸ Value.not_holdsLong_of_isBlank rfl
  · intro key texts template read
    have other : key ≠ "dueInDays" := fun same => absurd (same ▸ texts) (by decide)
    rw [ActionConfig.optionalText, missing other] at read
    cases read

/-- A reminder is due on the day after tomorrow, where that is asked for; the one for today has no
due date. -/
theorem reminders_due :
    (∃ t, ((execute contactBook (reminder (.text "2"))).run {}).2.services.tasks = [t] ∧
      t.dueDate = some ⟨2 * Instant.microsPerDay, some 0⟩) ∧
    ∃ t, ((execute contactBook (reminder (.int 0))).run {}).2.services.tasks = [t] ∧
      t.dueDate = none := by
  have dated : ({} : World).clock.civil < Instant.limit := by decide
  have fine (days : Value) : ({} : World).Spares "runner.execute" ∧
      ({} : World).Spares "services.create_task" ∧
      Expressible [("dueInDays", days)] contactBook.context.entity :=
    ⟨List.not_mem_nil, List.not_mem_nil, expressible_days days _⟩
  have kind (days : Value) : (reminder days).kind = .known .createTask := rfl
  constructor
  · have two : (Value.text "2").Counts 2 := .numeral (Numeral.toInt?_toString 2)
    have asks : DueBy ({} : World).clock (.text "2")
        (some ⟨2 * Instant.microsPerDay, some 0⟩) := .days two (by decide) rfl
    rcases created_due contactBook (kind (.text "2")) rfl dated asks with ⟨-, faulty⟩ | made
    · exact absurd (fine _) faulty
    · exact made
  · have asks : DueBy ({} : World).clock (.int 0) none := .today (.number 0)
    rcases created_due contactBook (kind (.int 0)) rfl dated asks with ⟨-, faulty⟩ | made
    · exact absurd (fine _) faulty
    · exact made

end Runner
end RecordFlow
