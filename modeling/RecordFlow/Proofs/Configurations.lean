/-
# Configurations — what comes of reading what an action has stored

What is stored for an action is read key by key, in the order of its kind.  How a
reading can go wrong is told by `Trouble`, without a word on how it is done.
What is stored becomes a configuration of the kind where no reading goes wrong,
and else it fails as the first that does: `read_outcome`.

Most troubles are refused in the name of the kind.  Two are not.  A task and a
delay ask for a floating-point number, and a whole number can be too large to be
one; and where a text is asked for, a whole number can have too many digits to be
written out.  Reading then fails with that, and not with a problem of the
configuration.
-/
import RecordFlow.Proofs.Effects
import RecordFlow.Proofs.Verdict

namespace RecordFlow

/-- The floating-point number that a value is or writes; a truth value is a number here. -/
inductive Value.HasForm : Value → Binary64 → Prop
  | bool (b : Bool) : HasForm (.bool b) (.finite false (if b then Binary64.one else 0))
  | int {n : Int} {x : Binary64} : Binary64.ofInt? n = some x → HasForm (.int n) x
  | float (x : Binary64) : HasForm (.float x) x
  | decimal {d : Decimal} {x : Binary64} : d.toBinary64? = some x → HasForm (.decimal d) x
  | text {s : String} {x : Binary64} : Numeral.toBinary64? s = some x → HasForm (.text s) x

/-- A value has one form at most. -/
theorem Value.HasForm.unique {v : Value} {x y : Binary64} (left : v.HasForm x)
    (right : v.HasForm y) : x = y := by
  cases left with
  | bool =>
      cases right
      rfl
  | int left =>
      cases right with
      | int right => exact Option.some.inj (left.symm.trans right)
  | float =>
      cases right
      rfl
  | decimal left =>
      cases right with
      | decimal right => exact Option.some.inj (left.symm.trans right)
  | text left =>
      cases right with
      | text right => exact Option.some.inj (left.symm.trans right)

/-- A value that neither is a number nor writes one. -/
def Value.IsNoNumber : Value → Prop
  | .null | .list _ | .tuple _ | .record _ => True
  | .text s => Numeral.toBinary64? s = none
  | .decimal d => d.isSignaling = true
  | _ => False

/-- A whole number that would be rounded up to where the finite numbers end. -/
def Value.IsVast : Value → Prop
  | .int n => 2 ^ 1024 - 2 ^ 970 ≤ n.natAbs
  | _ => False

namespace ActionConfig

/-! ## What is read -/

/-- What is read of the fields of a configuration. -/
inductive Reading where
  /-- A text under a key, if it is there. -/
  | text (key : String)
  /-- A text under a key. -/
  | required (key : String)
  /-- A number under a key, if it is there. -/
  | number (key : String)
  /-- That the headers are fields. -/
  | headers
  /-- The texts of the headers. -/
  | headerTexts
  /-- The conditions of a branch. -/
  | conditions
deriving DecidableEq, Repr

/-- What is read of a configuration of a kind, in its order. -/
def readings : ActionKind → List Reading
  | .sendEmail => [.text "toField", .text "subject", .text "body"]
  | .createTask => [.text "title", .text "description", .number "dueInDays", .text "assigneeId",
      .text "priority"]
  | .updateField => [.required "field"]
  | .sendWebhook => [.headers, .required "url", .text "method", .headerTexts, .text "bodyTemplate"]
  | .assignOwner => [.text "userId", .text "assignmentRuleId"]
  | .addTag | .removeTag => [.text "tagName"]
  | .createActivity => [.text "activityType", .text "activityTitle", .text "description"]
  | .waitDelay => [.number "delayAmount", .text "delayUnit"]
  | .conditionBranch => [.conditions]

/-- The fields in which a configuration is stored, if it is stored in fields; null is no field. -/
def fieldsIn : Value → Option Fields
  | .null => some []
  | .record raw => some raw
  | _ => none

/-- The headers that the fields of a configuration hold. -/
def headersIn (raw : Fields) : Fields := (raw.get "headers").fields?.getD []

/-- How a reading of the fields of a configuration goes wrong. -/
inductive Trouble (kind : ActionKind) (raw : Fields) : Reading → Failure → Prop
  | text {key : String} : (raw.get key).HoldsLong → Trouble kind raw (.text key) .tooManyDigits
  | missing {key : String} : (raw.get key).isBlank = true →
      Trouble kind raw (.required key) (.badConfig kind (.missing key))
  | required {key : String} : (raw.get key).HoldsLong →
      Trouble kind raw (.required key) .tooManyDigits
  | noNumber {key shown : String} : (raw.get key).isBlank = false → (raw.get key).IsNoNumber →
      (raw.get key).shown = .ok shown →
      Trouble kind raw (.number key) (.badConfig kind (.notANumber key shown))
  | noNumberShown {key : String} : (raw.get key).IsNoNumber → (raw.get key).HoldsLong →
      Trouble kind raw (.number key) .tooManyDigits
  | vast {key : String} : (raw.get key).IsVast → Trouble kind raw (.number key) .integerTooLarge
  | headers : (raw.get "headers").isTruthy = true → (raw.get "headers").fields? = none →
      Trouble kind raw .headers (.badConfig .sendWebhook .headersNotAnObject)
  | header {h : String × Value} : h ∈ headersIn raw → h.2.HoldsLong →
      Trouble kind raw .headerTexts .tooManyDigits
  | conditions : (raw.get "conditions").isTruthy = true →
      (∀ entries, raw.get "conditions" ≠ .list entries) →
      Trouble kind raw .conditions (.badConfig .conditionBranch .conditionsNotAList)
  | condition {entries : List Value} {fs : Fields} {key : String} :
      raw.get "conditions" = .list entries → .record fs ∈ entries →
      key = "field" ∨ key = "operator" → (fs.get key).HoldsLong →
      Trouble kind raw .conditions .tooManyDigits

/-- What reading a configuration of a kind comes to: where it is stored in fields, a configuration
of the kind if no reading goes wrong, and else the first trouble. -/
inductive ComesTo (kind : ActionKind) : Option Fields → Except Failure ActionConfig → Prop
  | shapeless : ComesTo kind none (.error (.badConfig kind .notAnObject))
  | accepted {raw : Fields} {config : ActionConfig} : kind ∈ Accounting.kinds config →
      (∀ r ∈ readings kind, ∀ f, ¬ Trouble kind raw r f) → ComesTo kind (some raw) (.ok config)
  | stopped {raw : Fields} {before after : List Reading} {r : Reading} {f : Failure} :
      readings kind = before ++ r :: after → (∀ b ∈ before, ∀ g, ¬ Trouble kind raw b g) →
      Trouble kind raw r f → ComesTo kind (some raw) (.error f)

/-! ## Single readings -/

/-- A reading is made and what it gives forgotten. -/
def Reading.check (kind : ActionKind) (raw : Fields) : Reading → Except Failure Unit
  | .text key => (fun _ => ()) <$> optionalText raw key
  | .required key => (fun _ => ()) <$> requiredText kind raw key
  | .number key => (fun _ => ()) <$> optionalNumber kind raw key
  | .headers => (fun _ => ()) <$> readHeaders (raw.get "headers")
  | .headerTexts => (fun _ => ()) <$> (headersIn raw).mapM headerText
  | .conditions => (fun _ => ()) <$> readBranch raw

/-- A reading goes well and there is no trouble with it, or it goes wrong in a way that there is. -/
def Reading.Told (kind : ActionKind) (raw : Fields) (r : Reading) : Prop :=
  (r.check kind raw = .ok () ∧ ∀ f, ¬ Trouble kind raw r f) ∨
    ∃ f, r.check kind raw = .error f ∧ Trouble kind raw r f

variable {kind : ActionKind} {raw : Fields} {key : String}

theorem optionalText_of_short (short : ¬ (raw.get key).HoldsLong) :
    optionalText raw key
      = .ok (if (raw.get key).isBlank then none else some (raw.get key).plainly) := by
  rw [optionalText]
  cases (raw.get key).isBlank with
  | true => rfl
  | false =>
      rw [Value.plainText, Value.written_of_short short]
      rfl

theorem optionalText_of_long (long : (raw.get key).HoldsLong) :
    optionalText raw key = .error .tooManyDigits := by
  have filled : (raw.get key).isBlank = false :=
    Bool.eq_false_iff.mpr fun blank => Value.not_holdsLong_of_isBlank blank long
  rw [optionalText, filled, Value.plainText, Value.written_of_long long]
  rfl

theorem told_text (key : String) : Reading.Told kind raw (.text key) := by
  rcases Classical.em (raw.get key).HoldsLong with long | short
  · exact .inr ⟨_, by rw [Reading.check, optionalText_of_long long]; rfl, .text long⟩
  · refine .inl ⟨by rw [Reading.check, optionalText_of_short short]; rfl, ?_⟩
    rintro f (long | _)
    exact short long

theorem told_required (key : String) : Reading.Told kind raw (.required key) := by
  rcases Classical.em (raw.get key).HoldsLong with long | short
  · refine .inr ⟨_, ?_, .required long⟩
    rw [Reading.check, requiredText, optionalText_of_long long]
    rfl
  · cases blank : (raw.get key).isBlank with
    | true =>
        refine .inr ⟨_, ?_, .missing blank⟩
        rw [Reading.check, requiredText, optionalText_of_short short, blank]
        rfl
    | false =>
        refine .inl ⟨?_, ?_⟩
        · rw [Reading.check, requiredText, optionalText_of_short short, blank]
          rfl
        · intro f trouble
          cases trouble with
          | missing missing => rw [blank] at missing; cases missing
          | required long => exact short long

theorem not_isNoNumber_of_hasForm {v : Value} {x : Binary64} (form : v.HasForm x) :
    ¬ v.IsNoNumber := by
  cases form with
  | decimal form =>
      intro signaling
      rw [Decimal.toBinary64?_eq_none_iff.mpr signaling] at form
      cases form
  | text form =>
      intro none
      rw [Value.IsNoNumber, form] at none
      cases none
  | _ => exact id

theorem not_isVast_of_hasForm {v : Value} {x : Binary64} (form : v.HasForm x) : ¬ v.IsVast := by
  cases form with
  | int form =>
      intro vast
      rw [Binary64.ofInt?_eq_none_iff.mpr vast] at form
      cases form
  | _ => exact id

/-- A value is read as its form, or it has none and is refused, or it is too large to have one. -/
theorem readNumber_cases (kind : ActionKind) (key : String) (v : Value) :
    (∃ x, readNumber kind key v = .ok x ∧ v.HasForm x) ∨
      (readNumber kind key v
          = v.shown >>= (fun shown => .error (.badConfig kind (.notANumber key shown))) ∧
        v.IsNoNumber) ∨
      (readNumber kind key v = .error .integerTooLarge ∧ v.IsVast) := by
  fun_cases readNumber kind key v with
  | case1 b => exact .inl ⟨_, rfl, .bool b⟩
  | case2 n x form => exact .inl ⟨x, rfl, .int form⟩
  | case3 n none => exact .inr (.inr ⟨rfl, Binary64.ofInt?_eq_none_iff.mp none⟩)
  | case4 x => exact .inl ⟨x, rfl, .float x⟩
  | case5 d x form => exact .inl ⟨x, rfl, .decimal form⟩
  | case6 d none refuse => exact .inr (.inl ⟨rfl, Decimal.toBinary64?_eq_none_iff.mp none⟩)
  | case7 s x form => exact .inl ⟨x, rfl, .text form⟩
  | case8 s none refuse => exact .inr (.inl ⟨rfl, none⟩)
  | case9 value refuse bool int float decimal text =>
      refine .inr (.inl ⟨rfl, ?_⟩)
      cases v with
      | bool b => exact absurd rfl (bool b)
      | int n => exact absurd rfl (int n)
      | float x => exact absurd rfl (float x)
      | decimal d => exact absurd rfl (decimal d)
      | text s => exact absurd rfl (text s)
      | _ => trivial

/-- A value that has a form is read as that. -/
theorem readNumber_of_hasForm {v : Value} {x : Binary64} (form : v.HasForm x) :
    readNumber kind key v = .ok x := by
  rcases readNumber_cases kind key v with ⟨y, read, form'⟩ | ⟨-, none⟩ | ⟨-, vast⟩
  · rw [read, form'.unique form]
  · exact absurd none (not_isNoNumber_of_hasForm form)
  · exact absurd vast (not_isVast_of_hasForm form)

theorem told_number (key : String) : Reading.Told kind raw (.number key) := by
  cases blank : (raw.get key).isBlank with
  | true =>
      refine .inl ⟨by rw [Reading.check, optionalNumber, blank]; rfl, fun f trouble => ?_⟩
      cases trouble with
      | noNumber filled => rw [blank] at filled; cases filled
      | noNumberShown _ long => exact Value.not_holdsLong_of_isBlank blank long
      | vast vast =>
          generalize raw.get key = v at blank vast
          cases v with
          | int n => cases blank
          | _ => exact vast
  | false =>
      have read : Reading.check kind raw (.number key)
          = (fun _ => ()) <$> some <$> readNumber kind key (raw.get key) := by
        rw [Reading.check, optionalNumber, blank]
        rfl
      rcases readNumber_cases kind key (raw.get key) with ⟨x, given, form⟩ | ⟨refused, none⟩ |
        ⟨refused, vast⟩
      · refine .inl ⟨by rw [read, given]; rfl, fun f trouble => ?_⟩
        cases trouble with
        | noNumber _ none => exact not_isNoNumber_of_hasForm form none
        | noNumberShown none => exact not_isNoNumber_of_hasForm form none
        | vast vast => exact not_isVast_of_hasForm form vast
      · rcases Classical.em (raw.get key).HoldsLong with long | short
        · refine .inr ⟨_, ?_, .noNumberShown none long⟩
          rw [read, refused, Value.shown, Value.written_of_long long]
          rfl
        · have shown : (raw.get key).shown = .ok _ := Value.written_of_short short
          refine .inr ⟨_, ?_, .noNumber blank none shown⟩
          rw [read, refused, shown]
          rfl
      · exact .inr ⟨_, by rw [read, refused]; rfl, .vast vast⟩

/-- Headers are the fields of what is given for them, unless that has none. -/
theorem readHeaders_cases (v : Value) :
    (readHeaders v = .ok (v.fields?.getD []) ∧ ¬ (v.isTruthy = true ∧ v.fields? = none)) ∨
      (readHeaders v = .error (.badConfig .sendWebhook .headersNotAnObject) ∧
        v.isTruthy = true ∧ v.fields? = none) := by
  unfold readHeaders
  cases given : v.isTruthy with
  | false =>
      refine .inl ⟨?_, fun h => Bool.noConfusion h.1⟩
      cases v with
      | record fs =>
          have none : fs = [] := by simpa [Value.isTruthy] using given
          rw [none]
          rfl
      | _ => rfl
  | true =>
      cases v with
      | record fs => exact .inl ⟨rfl, fun h => nomatch h.2⟩
      | _ => exact .inr ⟨rfl, rfl, rfl⟩

/-- What is found of headers is what the fields hold of them. -/
theorem readHeaders_bind {α : Type} (k : Fields → Except Failure α) :
    readHeaders (raw.get "headers") >>= k
      = readHeaders (raw.get "headers") >>= fun _ => k (headersIn raw) := by
  rcases readHeaders_cases (raw.get "headers") with ⟨read, -⟩ | ⟨read, -⟩ <;>
    rw [read] <;> rfl

theorem told_headers : Reading.Told kind raw .headers := by
  rcases readHeaders_cases (raw.get "headers") with ⟨read, sound⟩ | ⟨read, given, shape⟩
  · refine .inl ⟨by rw [Reading.check, read]; rfl, ?_⟩
    rintro f (_ | _ | _ | _ | _ | _ | ⟨given, shape⟩)
    exact sound ⟨given, shape⟩
  · exact .inr ⟨_, by rw [Reading.check, read]; rfl, .headers given shape⟩

theorem headerText_eq_error_iff {h : String × Value} {f : Failure} :
    headerText h = .error f ↔ f = .tooManyDigits ∧ h.2.HoldsLong := by
  have text : h.2.plainText = .error f ↔ f = .tooManyDigits ∧ h.2.HoldsLong :=
    Value.written_eq_error_iff
  rw [← text]
  exact map_eq_error_iff

theorem told_headerTexts : Reading.Told kind raw .headerTexts := by
  cases read : (headersIn raw).mapM headerText with
  | ok headers =>
      refine .inl ⟨by rw [Reading.check, read]; rfl, fun f trouble => ?_⟩
      cases trouble with
      | header mem long =>
          obtain ⟨text, -, given⟩ := exists_of_mapM_ok read mem
          rw [headerText_eq_error_iff.mpr ⟨rfl, long⟩] at given
          cases given
  | error f =>
      obtain ⟨h, mem, failed⟩ := exists_of_mapM_error read
      obtain ⟨rfl, long⟩ := headerText_eq_error_iff.mp failed
      exact .inr ⟨_, by rw [Reading.check, read]; rfl, .header mem long⟩

theorem storedText_eq_error_iff {fs : Fields} {f : Failure} :
    Condition.storedText fs key = .error f ↔ f = .tooManyDigits ∧ (fs.get key).HoldsLong := by
  rw [Condition.storedText, Fields.get]
  cases fs.find? key with
  | none =>
      exact iff_of_false (fun h => by cases h) fun h => Value.not_holdsLong_of_isBlank rfl h.2
  | some v => exact Value.written_eq_error_iff

/-- A condition is read unless its field or its operator cannot be written out. -/
theorem ofFields_eq_error_iff {fs : Fields} {f : Failure} :
    Condition.ofFields fs = .error f ↔
      f = .tooManyDigits ∧ ∃ key, (key = "field" ∨ key = "operator") ∧ (fs.get key).HoldsLong := by
  constructor
  · intro failed
    cases field : Condition.storedText fs "field" with
    | error g =>
        rw [Condition.ofFields, field] at failed
        obtain rfl : g = f := Except.error.inj failed
        obtain ⟨rfl, long⟩ := storedText_eq_error_iff.mp field
        exact ⟨rfl, _, .inl rfl, long⟩
    | ok s =>
        rw [Condition.ofFields, field] at failed
        obtain ⟨rfl, long⟩ := storedText_eq_error_iff.mp (map_eq_error_iff.mp failed)
        exact ⟨rfl, _, .inr rfl, long⟩
  · rintro ⟨rfl, key, named, long⟩
    have unread := storedText_eq_error_iff.mpr ⟨rfl, long⟩
    rcases named with rfl | rfl
    · rw [Condition.ofFields, unread]
      rfl
    · rw [Condition.ofFields, unread]
      cases field : Condition.storedText fs "field" with
      | ok s => rfl
      | error g =>
          obtain ⟨rfl, -⟩ := storedText_eq_error_iff.mp field
          rfl

/-- The conditions that a branch reads in a list: the records, in their order. -/
def conditionsIn (entries : List Value) : Except Failure (List Condition) :=
  (entries.filterMap Value.fields?).mapM Condition.ofFields

theorem mem_recordsIn {entries : List Value} {fs : Fields} :
    fs ∈ entries.filterMap Value.fields? ↔ .record fs ∈ entries := by
  have record {v : Value} : v.fields? = some fs ↔ v = .record fs := by
    cases v <;> simp [Value.fields?]
  simp [record]

theorem readBranch_list {entries : List Value} (listed : raw.get "conditions" = .list entries) :
    readBranch raw = BranchConfig.mk <$> conditionsIn entries := by
  rw [readBranch, listed]
  cases entries <;> rfl

theorem readBranch_nothing (nothing : (raw.get "conditions").isTruthy = false) :
    readBranch raw = .ok ⟨[]⟩ := by
  rw [readBranch, nothing]
  rfl

theorem readBranch_shapeless (given : (raw.get "conditions").isTruthy = true)
    (shape : ∀ entries, raw.get "conditions" ≠ .list entries) :
    readBranch raw = .error (.badConfig .conditionBranch .conditionsNotAList) := by
  rw [readBranch, given]
  generalize raw.get "conditions" = v at shape
  cases v with
  | list entries => exact absurd rfl (shape entries)
  | _ => rfl

theorem told_conditions : Reading.Told kind raw .conditions := by
  rcases Classical.em (∃ entries, raw.get "conditions" = .list entries) with
    ⟨entries, listed⟩ | shape
  · have read : Reading.check kind raw .conditions = (fun _ => ()) <$> conditionsIn entries := by
      rw [Reading.check, readBranch_list listed]
      cases conditionsIn entries <;> rfl
    cases all : conditionsIn entries with
    | ok cs =>
        refine .inl ⟨by rw [read, all]; rfl, fun f trouble => ?_⟩
        cases trouble with
        | conditions _ shape => exact shape entries listed
        | condition listed' mem named long =>
            obtain rfl := Value.list.inj (listed.symm.trans listed')
            obtain ⟨c, -, given⟩ := exists_of_mapM_ok all (mem_recordsIn.mpr mem)
            rw [ofFields_eq_error_iff.mpr ⟨rfl, _, named, long⟩] at given
            cases given
    | error f =>
        obtain ⟨fs, mem, failed⟩ := exists_of_mapM_error all
        obtain ⟨rfl, key, named, long⟩ := ofFields_eq_error_iff.mp failed
        exact .inr ⟨_, by rw [read, all]; rfl, .condition listed (mem_recordsIn.mp mem) named long⟩
  · cases given : (raw.get "conditions").isTruthy with
    | true =>
        have shape : ∀ entries, raw.get "conditions" ≠ .list entries := not_exists.mp shape
        exact .inr ⟨_, by rw [Reading.check, readBranch_shapeless given shape]; rfl,
          .conditions given shape⟩
    | false =>
        refine .inl ⟨by rw [Reading.check, readBranch_nothing given]; rfl, fun f trouble => ?_⟩
        cases trouble with
        | conditions given' => rw [given] at given'; cases given'
        | condition listed => exact shape ⟨_, listed⟩

theorem told (kind : ActionKind) (raw : Fields) (r : Reading) : r.Told kind raw := by
  cases r with
  | text key => exact told_text key
  | required key => exact told_required key
  | number key => exact told_number key
  | headers => exact told_headers
  | headerTexts => exact told_headerTexts
  | conditions => exact told_conditions

/-! ## Reading -/

/-- Fields are read reading by reading: what is made of the readings aside, this is the one
sequence of them on both sides. -/
theorem readFields_checked (kind : ActionKind) (raw : Fields) :
    (fun _ => ()) <$> readFields kind raw = (readings kind).forM (Reading.check kind raw) := by
  cases kind with
  | sendEmail => simp [readFields, readings, readEmail, textOr, Reading.check]
  | createTask => simp [readFields, readings, readTask, textOr, Reading.check]
  | updateField => simp [readFields, readings, readField, Reading.check]
  | sendWebhook =>
      -- which texts are read depends on the headers that are found
      rw [readFields, readWebhook, readHeaders_bind]
      simp [readings, textOr, Reading.check]
  | assignOwner => simp [readFields, readings, readOwner, Reading.check]
  | addTag | removeTag => simp [readFields, readings, readTag, Reading.check]
  | createActivity => simp [readFields, readings, readActivity, textOr, Reading.check]
  | waitDelay => simp [readFields, readings, readDelay, Reading.check]
  | conditionBranch => simp [readFields, readings, Reading.check]

theorem readFields_comesTo (kind : ActionKind) (raw : Fields) :
    ComesTo kind (some raw) (readFields kind raw) := by
  have checked := readFields_checked kind raw
  cases read : readFields kind raw with
  | ok config =>
      rw [read] at checked
      have passed := forM_eq_ok_iff.mp checked.symm
      refine .accepted (Accounting.mem_kinds_of_readFields read) fun r mem f trouble => ?_
      rcases told kind raw r with ⟨-, none⟩ | ⟨g, failed, -⟩
      · exact none f trouble
      · rw [passed r mem] at failed
        cases failed
  | error f =>
      rw [read] at checked
      obtain ⟨before, r, after, split, passed, failed⟩ := exists_of_forM_error checked.symm
      refine .stopped split (fun b mem g trouble => ?_) ?_
      · rcases told kind raw b with ⟨-, none⟩ | ⟨f, failed, -⟩
        · exact none g trouble
        · rw [passed b mem] at failed
          cases failed
      · rcases told kind raw r with ⟨passed, -⟩ | ⟨g, failed', trouble⟩
        · rw [passed] at failed
          cases failed
        · obtain rfl := Except.error.inj (failed.symm.trans failed')
          exact trouble

/-- What is stored is read by its fields. -/
theorem read_eq (kind : ActionKind) (stored : Value) :
    read kind stored = match fieldsIn stored with
      | some raw => readFields kind raw
      | none => .error (.badConfig kind .notAnObject) := by
  cases stored <;> rfl

/-- A trouble is a problem of a configuration of the kind, a whole number too large for floating
point, or one with too many digits to be written out. -/
theorem Trouble.cases {r : Reading} {f : Failure} (trouble : Trouble kind raw r f)
    (mem : r ∈ readings kind) :
    (∃ problem, f = .badConfig kind problem) ∨ f = .integerTooLarge ∨ f = .tooManyDigits := by
  cases trouble with
  | missing | noNumber => exact .inl ⟨_, rfl⟩
  | vast => exact .inr (.inl rfl)
  | text | required | noNumberShown | header | condition => exact .inr (.inr rfl)
  | headers =>
      obtain rfl : kind = .sendWebhook := by
        revert mem
        cases kind <;> decide
      exact .inl ⟨_, rfl⟩
  | conditions =>
      obtain rfl : kind = .conditionBranch := by
        revert mem
        cases kind <;> decide
      exact .inl ⟨_, rfl⟩

/-- What is stored is read into a configuration of the kind where no reading goes wrong, and else
it fails as the first that does; it then is refused in the name of the kind, or its number is too
large, or one of its texts has too many digits. -/
theorem read_outcome (kind : ActionKind) (stored : Value) :
    ComesTo kind (fieldsIn stored) (read kind stored) ∧
      ∀ f, read kind stored = .error f →
        (∃ problem, f = .badConfig kind problem) ∨ f = .integerTooLarge ∨ f = .tooManyDigits := by
  have comes : ComesTo kind (fieldsIn stored) (read kind stored) := by
    rw [read_eq]
    cases fieldsIn stored with
    | some raw => exact readFields_comesTo kind raw
    | none => exact .shapeless
  refine ⟨comes, fun f failed => ?_⟩
  rw [failed] at comes
  clear failed
  generalize fieldsIn stored = fields at comes
  cases comes with
  | shapeless => exact .inl ⟨_, rfl⟩
  | stopped split _ trouble =>
      exact trouble.cases (split ▸ List.mem_append_right _ List.mem_cons_self)

/-- A task can be due in too many days for floating point. -/
example : Trouble .createTask [("dueInDays", .int (2 ^ 1024 : Nat))] (.number "dueInDays")
    .integerTooLarge :=
  .vast (Nat.sub_le _ _)

/-- The subject of an e-mail can have too many digits. -/
example : Trouble .sendEmail [("subject", .leastLong)] (.text "subject") .tooManyDigits :=
  .text Value.holdsLong_leastLong

end ActionConfig
end RecordFlow
