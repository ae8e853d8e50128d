/-
# Verdict — when conditions give an answer

The evaluation of conditions comes to a verdict, true or false, except where it
reaches a condition that is stuck, and it is told which conditions are: an
ordering with a number that has no floating-point form, a comparison of texts
with a value that has none, and an equality that comes upon a NaN which refuses
to be compared, before it has found a difference.  So `conditions_decided` does
not tell that every evaluation has a verdict: a whole number of a record can be
too large to be ordered, or too long to be searched.

An ordering that is not stuck holds only between numbers.
-/
import RecordFlow.Proofs.Equality
import RecordFlow.Proofs.Exactness
import RecordFlow.Proofs.Failures
import RecordFlow.Proofs.Lengths
import RecordFlow.Proofs.ReadBack
import RecordFlow.Proofs.Sequences

namespace RecordFlow

/-! ## Numbers -/

theorem Decimal.toBinary64?_eq_none_iff {d : Decimal} :
    d.toBinary64? = none ↔ d.isSignaling = true := by
  cases d with
  | nan negative signaling payload => cases signaling <;> simp [toBinary64?, isSignaling]
  | _ => exact iff_of_false nofun nofun

namespace Value

/-- A number without a floating-point form: a whole number that would be rounded up to where the
finite numbers end, or a NaN that takes part in no operation. -/
def HasNoFloat : Value → Prop
  | int n => 2 ^ 1024 - 2 ^ 970 ≤ n.natAbs
  | v => v.isSignaling = true

/-- A value stands for a number: it is one with a floating-point form, or a text that writes one
with nothing but blanks around it. -/
inductive StandsFor : Value → Binary64 → Prop
  | int {n : Int} {x : Binary64} : Binary64.ofInt? n = some x → StandsFor (.int n) x
  | float {x : Binary64} : x ≠ .nan → StandsFor (.float x) x
  | decimal {d : Decimal} {x : Binary64} : d.toBinary64? = some x → x ≠ .nan →
      StandsFor (.decimal d) x
  | text {s : String} {x : Binary64} :
      Numeral.toBinary64? (String.ofList (Text.trim s.toList)) = some x → x ≠ .nan →
      StandsFor (.text s) x

theorem hasNoFloat_int {n : Int} : (int n).HasNoFloat ↔ Binary64.ofInt? n = none :=
  Binary64.ofInt?_eq_none_iff.symm

theorem hasNoFloat_decimal {d : Decimal} : (decimal d).HasNoFloat ↔ d.toBinary64? = none :=
  Decimal.toBinary64?_eq_none_iff.symm

theorem fails_toNumber_iff (v : Value) : Fails (Condition.toNumber v) ↔ v.HasNoFloat := by
  fun_cases Condition.toNumber v with
  | case1 n x form =>
      refine iff_of_false (not_fails_ok x) fun none => ?_
      rw [hasNoFloat_int, form] at none
      cases none
  | case2 n none => exact iff_of_true (fails_error _) (hasNoFloat_int.mpr none)
  | case3 x => exact iff_of_false (not_fails_ok x) Bool.false_ne_true
  | case4 d x form =>
      refine iff_of_false (not_fails_ok x) fun none => ?_
      rw [hasNoFloat_decimal, form] at none
      cases none
  | case5 d none => exact iff_of_true (fails_error _) (hasNoFloat_decimal.mpr none)
  | case6 s => exact iff_of_false (not_fails_ok _) Bool.false_ne_true
  | case7 v int float decimal text =>
      refine iff_of_false (not_fails_ok _) ?_
      cases v with
      | int n => exact absurd rfl (int n)
      | decimal d => exact absurd rfl (decimal d)
      | _ => exact Bool.false_ne_true

theorem StandsFor.toNumber {v : Value} {x : Binary64} (h : v.StandsFor x) :
    Condition.toNumber v = .ok x := by
  fun_cases Condition.toNumber v with
  | case1 n y form =>
      cases h with
      | int form' =>
          rw [form] at form'
          exact congrArg Except.ok (Option.some.inj form')
  | case2 n none =>
      cases h with
      | int form =>
          rw [none] at form
          cases form
  | case3 y =>
      cases h with
      | float number => rfl
  | case4 d y form =>
      cases h with
      | decimal form' number =>
          rw [form] at form'
          exact congrArg Except.ok (Option.some.inj form')
  | case5 d none =>
      cases h with
      | decimal form number =>
          rw [none] at form
          cases form
  | case6 s =>
      cases h with
      | text writes number =>
          rw [writes]
          rfl
  | case7 v int float decimal text =>
      cases h with
      | int => exact absurd rfl (int _)
      | float => exact absurd rfl (float _)
      | decimal => exact absurd rfl (decimal _)
      | text => exact absurd rfl (text _)

theorem standsFor_of_toNumber {v : Value} {x : Binary64} (h : Condition.toNumber v = .ok x)
    (number : x ≠ .nan) : v.StandsFor x := by
  revert h
  fun_cases Condition.toNumber v with
  | case1 n y form =>
      rintro ⟨⟩
      exact .int form
  | case2 n none =>
      intro failed
      cases failed
  | case3 y =>
      rintro ⟨⟩
      exact .float number
  | case4 d y form =>
      rintro ⟨⟩
      exact .decimal form number
  | case5 d none =>
      intro failed
      cases failed
  | case6 s =>
      intro h
      cases writes : Numeral.toBinary64? (String.ofList (Text.trim s.toList)) with
      | none =>
          rw [writes] at h
          exact absurd (Except.ok.inj h).symm number
      | some y =>
          rw [writes] at h
          obtain rfl : y = x := Except.ok.inj h
          exact .text writes number
  | case7 v int float decimal text =>
      intro h
      exact absurd (Except.ok.inj h).symm number

end Value

/-! ## Equality -/

namespace Value

mutual

/-- The comparison of two values comes upon a NaN that refuses to be compared. -/
inductive Refuses : Value → Value → Prop
  | numbers {a b : Value} : a.isNumber = true → b.isNumber = true →
      a.isSignaling = true ∨ b.isSignaling = true → Refuses a b
  | lists {xs ys : List Value} : xs.length = ys.length → ItemsRefuse xs ys →
      Refuses (.list xs) (.list ys)
  | tuples {xs ys : List Value} : ItemsRefuse xs ys → Refuses (.tuple xs) (.tuple ys)
  | records {fs gs : Fields} : fs.length = gs.length → FieldsRefuse fs gs →
      Refuses (.record fs) (.record gs)

/-- The comparison of two sequences does, before a difference is found. -/
inductive ItemsRefuse : List Value → List Value → Prop
  | here {x y : Value} {xs ys : List Value} : Refuses x y → ItemsRefuse (x :: xs) (y :: ys)
  | later {x y : Value} {xs ys : List Value} : x.equal y = .ok true → ItemsRefuse xs ys →
      ItemsRefuse (x :: xs) (y :: ys)

/-- The comparison of two records does, before a difference is found. -/
inductive FieldsRefuse : Fields → Fields → Prop
  | here {name : String} {v w : Value} {fs gs : Fields} : gs.find? name = some w → Refuses v w →
      FieldsRefuse ((name, v) :: fs) gs
  | later {name : String} {v w : Value} {fs gs : Fields} : gs.find? name = some w →
      v.equal w = .ok true → FieldsRefuse fs gs → FieldsRefuse ((name, v) :: fs) gs

end

theorem fails_equalNumbers_iff {a b : Value} :
    Fails (equalNumbers a b) ↔ a.isSignaling = true ∨ b.isSignaling = true := by
  rw [equalNumbers, ← Bool.or_eq_true]
  split
  · rename_i signaling
    exact iff_of_true (fails_error _) signaling
  · rename_i quiet
    exact iff_of_false (not_fails_ok _) quiet

mutual

theorem Refuses.fails {a b : Value} (h : Refuses a b) : Fails (a.equal b) := by
  cases h with
  | numbers left right signaling =>
      rw [equal_numbers left right]
      exact fails_equalNumbers_iff.mpr signaling
  | lists same refuse =>
      rw [equal, if_pos same]
      exact refuse.fails
  | tuples refuse =>
      rw [equal]
      exact refuse.fails
  | records same refuse =>
      rw [equal, if_pos same]
      exact refuse.fails

theorem ItemsRefuse.fails {xs ys : List Value} (h : ItemsRefuse xs ys) :
    Fails (equalItems xs ys) := by
  cases h with
  | here refuses =>
      obtain ⟨f, failed⟩ := refuses.fails
      exact ⟨f, by rw [equalItems, failed]⟩
  | later same refuse =>
      rw [equalItems, same]
      exact refuse.fails

theorem FieldsRefuse.fails {fs gs : Fields} (h : FieldsRefuse fs gs) :
    Fails (equalFields fs gs) := by
  cases h with
  | here found refuses =>
      obtain ⟨f, failed⟩ := refuses.fails
      rw [Fields.find?] at found
      exact ⟨f, by simp only [equalFields, found, failed]⟩
  | later found same refuse =>
      rw [Fields.find?] at found
      simp only [equalFields, found, same]
      exact refuse.fails

end

mutual

theorem refuses_of_fails (a b : Value) (h : Fails (a.equal b)) : Refuses a b := by
  unfold equal at h
  split at h
  · exact absurd h (not_fails_ok _)
  · exact absurd h (not_fails_ok _)
  · split at h
    · rename_i same
      exact .lists same (itemsRefuse_of_fails _ _ h)
    · exact absurd h (not_fails_ok _)
  · exact .tuples (itemsRefuse_of_fails _ _ h)
  · split at h
    · rename_i same
      exact .records same (fieldsRefuse_of_fails _ _ h)
    · exact absurd h (not_fails_ok _)
  · split at h
    · rename_i numbers
      obtain ⟨left, right⟩ := Bool.and_eq_true_iff.mp numbers
      exact .numbers left right (fails_equalNumbers_iff.mp h)
    · exact absurd h (not_fails_ok _)

theorem itemsRefuse_of_fails (xs ys : List Value) (h : Fails (equalItems xs ys)) :
    ItemsRefuse xs ys := by
  unfold equalItems at h
  split at h
  · exact absurd h (not_fails_ok _)
  · split at h
    · rename_i same
      exact .later same (itemsRefuse_of_fails _ _ h)
    · exact .here (refuses_of_fails _ _ h)
  · exact absurd h (not_fails_ok _)

theorem fieldsRefuse_of_fails (fs gs : Fields) (h : Fails (equalFields fs gs)) :
    FieldsRefuse fs gs := by
  unfold equalFields at h
  split at h
  · exact absurd h (not_fails_ok _)
  · split at h
    · exact absurd h (not_fails_ok _)
    · rename_i found
      split at h
      · rename_i same
        exact .later found same (fieldsRefuse_of_fails _ _ h)
      · exact .here found (refuses_of_fails _ _ h)

end

theorem fails_equal_iff {a b : Value} : Fails (a.equal b) ↔ Refuses a b :=
  ⟨refuses_of_fails a b, Refuses.fails⟩

/-- The comparison of the operators comes upon a NaN that refuses to be compared. -/
def SameRefuses (a b : Value) : Prop := a.isBool = b.isBool ∧ Refuses a b

theorem fails_same_iff {a b : Value} : Fails (a.same b) ↔ SameRefuses a b := by
  rw [same, SameRefuses]
  split
  · rename_i alike
    rw [fails_equal_iff, and_iff_right alike]
  · rename_i unlike
    exact iff_of_false (not_fails_ok _) fun h => unlike h.1

/-- The search for an equal item does, before an item is found. -/
def SearchRefuses (a : Value) (xs : List Value) : Prop :=
  ∃ before x after, xs = before ++ x :: after ∧ (∀ y ∈ before, a.same y = .ok false) ∧
    SameRefuses a x

theorem searchRefuses_cons {a x : Value} {xs : List Value} :
    SearchRefuses a (x :: xs) ↔
      SameRefuses a x ∨ a.same x = .ok false ∧ SearchRefuses a xs := by
  constructor
  · rintro ⟨before, y, after, split, passed, refuses⟩
    cases before with
    | nil =>
        obtain ⟨rfl, -⟩ := List.cons.inj split
        exact .inl refuses
    | cons _ before =>
        obtain ⟨rfl, rest⟩ := List.cons.inj split
        obtain ⟨first, later⟩ := List.forall_mem_cons.mp passed
        exact .inr ⟨first, before, y, after, rest, later, refuses⟩
  · rintro (refuses | ⟨first, before, y, after, rfl, passed, refuses⟩)
    · exact ⟨[], x, xs, rfl, List.forall_mem_nil _, refuses⟩
    · exact ⟨x :: before, y, after, rfl, List.forall_mem_cons.mpr ⟨first, passed⟩, refuses⟩

theorem fails_sameAsAny_iff {a : Value} {xs : List Value} :
    Fails (a.sameAsAny xs) ↔ SearchRefuses a xs := by
  induction xs with
  | nil => exact iff_of_false (not_fails_ok _) (by simp [SearchRefuses])
  | cons x xs ih =>
      rw [searchRefuses_cons, ← fails_same_iff, ← ih, sameAsAny]
      cases outcome : a.same x with
      | error f => simp [Fails]
      | ok found => cases found <;> simp [Fails]

end Value

/-! ## Operators -/

/-- The relation between numbers that an operator tests, if it is one of the four that do. -/
def Operator.orders? : Operator → Option (Binary64 → Binary64 → Bool)
  | .greaterThan => some fun x y => y.lt x
  | .lessThan => some fun x y => x.lt y
  | .greaterThanOrEquals => some fun x y => y.le x
  | .lessThanOrEquals => some fun x y => x.le y
  | _ => none

/-- An operator between two values has no verdict. -/
def Operator.Stuck (op : Operator) (a b : Value) : Prop :=
  match op with
  | .greaterThan | .lessThan | .greaterThanOrEquals | .lessThanOrEquals =>
      a.HasNoFloat ∨ b.HasNoFloat
  | .contains | .notContains | .startsWith | .endsWith => a.HoldsLong ∨ b.HoldsLong
  | .equals | .notEquals => a.SameRefuses b
  | .isIn | .isNotIn => ∃ xs, b.items? = some xs ∧ a.SearchRefuses xs
  | _ => False

namespace Condition

variable {a b : Value} {r : Binary64 → Binary64 → Bool}

theorem fails_compareNumbers_iff :
    Fails (compareNumbers r a b) ↔ a.HasNoFloat ∨ b.HasNoFloat := by
  rw [compareNumbers, ← Value.fails_toNumber_iff, ← Value.fails_toNumber_iff]
  cases toNumber a <;> cases toNumber b <;> simp [Fails, bind, Except.bind, pure, Except.pure]

theorem fails_caseless_iff {v : Value} : Fails (caseless v) ↔ v.HoldsLong := by
  refine fails_map_iff.trans ?_
  rcases Classical.em v.HoldsLong with long | short
  · exact iff_of_true ⟨_, Value.written_of_long long⟩ long
  · rw [Value.stringify, Value.written_of_short short]
    exact iff_of_false (not_fails_ok _) short

theorem fails_compareTexts_iff {r : List Char → List Char → Bool} :
    Fails (compareTexts r a b) ↔ a.HoldsLong ∨ b.HoldsLong := by
  rw [compareTexts, ← fails_caseless_iff, ← fails_caseless_iff]
  cases caseless a <;> cases caseless b <;> simp [Fails, bind, Except.bind, pure, Except.pure]

theorem fails_isMember_iff :
    Fails (isMember a b) ↔ ∃ xs, b.items? = some xs ∧ a.SearchRefuses xs := by
  rw [isMember]
  cases b.items? with
  | none => exact iff_of_false (not_fails_ok _) nofun
  | some xs => simp [Value.fails_sameAsAny_iff]

theorem fails_holds_iff {op : Operator} : Fails (holds op a b) ↔ op.Stuck a b := by
  cases op with
  | equals => exact Value.fails_same_iff
  | notEquals => exact fails_map_iff.trans Value.fails_same_iff
  | greaterThan | lessThan | greaterThanOrEquals | lessThanOrEquals =>
      exact fails_compareNumbers_iff
  | contains | notContains | startsWith | endsWith => exact fails_compareTexts_iff
  | isIn => exact fails_isMember_iff
  | isNotIn => exact fails_map_iff.trans fails_isMember_iff
  | _ => exact iff_of_false (not_fails_ok _) id

end Condition

theorem Binary64.le_numbers {x y : Binary64} (h : x.le y = true) : x ≠ .nan ∧ y ≠ .nan := by
  constructor
  · rintro rfl
    cases h
  · rintro rfl
    cases x with
    | infinite negative => cases negative <;> cases h
    | _ => cases h

theorem Binary64.lt_numbers {x y : Binary64} (h : x.lt y = true) : x ≠ .nan ∧ y ≠ .nan := by
  rw [Binary64.lt, Bool.and_eq_true] at h
  exact le_numbers h.1

namespace Operator

variable {op : Operator} {r : Binary64 → Binary64 → Bool} {a b : Value}

/-- No relation that is tested holds of a NaN. -/
theorem numbers_of_orders (orders : op.orders? = some r) {x y : Binary64} (h : r x y = true) :
    x ≠ .nan ∧ y ≠ .nan := by
  cases op with
  | greaterThan =>
      cases orders
      exact (Binary64.lt_numbers h).symm
  | lessThan =>
      cases orders
      exact Binary64.lt_numbers h
  | greaterThanOrEquals =>
      cases orders
      exact (Binary64.le_numbers h).symm
  | lessThanOrEquals =>
      cases orders
      exact Binary64.le_numbers h
  | _ => cases orders

theorem holds_of_orders (orders : op.orders? = some r) :
    Condition.holds op a b = Condition.compareNumbers r a b := by
  cases op <;> cases orders <;> rfl

/-- Numbers are compared as the relation says. -/
theorem holds_numbers (orders : op.orders? = some r) {x y : Binary64} (left : a.StandsFor x)
    (right : b.StandsFor y) : Condition.holds op a b = .ok (r x y) := by
  rw [holds_of_orders orders, Condition.compareNumbers, left.toNumber, right.toNumber]
  rfl

/-- What is no number is in no relation. -/
theorem holds_unordered (orders : op.orders? = some r) (decided : ¬ op.Stuck a b)
    (apart : ¬ ∃ x y, a.StandsFor x ∧ b.StandsFor y) : Condition.holds op a b = .ok false := by
  have decided := mt Condition.fails_holds_iff.mp decided
  rw [holds_of_orders orders, Condition.compareNumbers] at decided ⊢
  cases left : Condition.toNumber a with
  | error f =>
      rw [left] at decided
      exact absurd (fails_error f) decided
  | ok x =>
      cases right : Condition.toNumber b with
      | error f =>
          rw [left, right] at decided
          exact absurd (fails_error f) decided
      | ok y =>
          have untrue : r x y ≠ true := fun related =>
            have numbers := numbers_of_orders orders related
            apart ⟨x, y, Value.standsFor_of_toNumber left numbers.1,
              Value.standsFor_of_toNumber right numbers.2⟩
          exact congrArg Except.ok (Bool.eq_false_iff.mpr untrue)

end Operator

namespace Condition

/-! ## Conditions -/

/-- A condition has no verdict on a record. -/
def Stuck (c : Condition) (entity : Fields) : Prop :=
  ∃ op, c.operator = .known op ∧ op.Stuck (entity.get c.field) c.value

/-- Evaluation reaches a condition that has no verdict: those before it hold. -/
def Sticks (entity : Fields) (cs : List Condition) : Prop :=
  ∃ before c after, cs = before ++ c :: after ∧ (∀ d ∈ before, d.eval entity = .ok true) ∧
    c.Stuck entity

variable {entity : Fields} {cs : List Condition}

theorem fails_eval_iff {c : Condition} : Fails (c.eval entity) ↔ c.Stuck entity := by
  rw [eval, Stuck]
  cases c.operator with
  | known op => simp [fails_holds_iff]
  | foreign word => exact iff_of_false (not_fails_ok _) nofun

theorem sticks_cons {c : Condition} :
    Sticks entity (c :: cs) ↔ c.Stuck entity ∨ c.eval entity = .ok true ∧ Sticks entity cs := by
  constructor
  · rintro ⟨before, d, after, split, passed, stuck⟩
    cases before with
    | nil =>
        obtain ⟨rfl, -⟩ := List.cons.inj split
        exact .inl stuck
    | cons _ before =>
        obtain ⟨rfl, rest⟩ := List.cons.inj split
        obtain ⟨first, later⟩ := List.forall_mem_cons.mp passed
        exact .inr ⟨first, before, d, after, rest, later, stuck⟩
  · rintro (stuck | ⟨first, before, d, after, rfl, passed, stuck⟩)
    · exact ⟨[], c, cs, rfl, List.forall_mem_nil _, stuck⟩
    · exact ⟨c :: before, d, after, rfl, List.forall_mem_cons.mpr ⟨first, passed⟩, stuck⟩

theorem fails_evalAll_iff : Fails (evalAll entity cs) ↔ Sticks entity cs := by
  induction cs with
  | nil => exact iff_of_false (not_fails_ok _) (by simp [Sticks])
  | cons c cs ih =>
      rw [sticks_cons, ← fails_eval_iff, ← ih, evalAll]
      cases outcome : c.eval entity with
      | error f => simp [Fails]
      | ok held => cases held <;> simp [Fails]

theorem evalStored_listed {cs : List Condition} (read : ∀ c ∈ cs, c.operator.IsRead) :
    evalStored (.record entity) (cs.map fun c => .record c.toFields) = evalAll entity cs := by
  induction cs with
  | nil => rfl
  | cons c cs ih =>
      obtain ⟨here, others⟩ := List.forall_mem_cons.mp read
      have first : (ofValue (.record c.toFields) >>= (evalOn · (.record entity)))
          = c.eval entity := by
        rw [ofValue, ofFields_toFields here]
        rfl
      rw [List.map_cons, evalStored, evalAll, first, ih others]

/-- Conditions that are written as records are evaluated like the conditions themselves. -/
theorem evalValue_listToValue (read : ∀ c ∈ cs, c.operator.IsRead) :
    evalValue (.record entity) (listToValue cs) = evalAll entity cs := by
  cases cs with
  | nil => rfl
  | cons c cs => exact evalStored_listed read

/-- Conditions have a verdict on a record unless evaluation reaches one that is stuck, whether they
are given as they are or written as records.  An ordering compares the numbers that its two sides
stand for, and it is false where a side stands for none and neither makes it stuck. -/
theorem conditions_decided (entity : Fields) (cs : List Condition) :
    ((∃ verdict, evalAll entity cs = .ok verdict) ↔ ¬ Sticks entity cs) ∧
    ((∀ c ∈ cs, c.operator.IsRead) →
      evalValue (.record entity) (listToValue cs) = evalAll entity cs) ∧
    ∀ (c : Condition) (op : Operator) (r : Binary64 → Binary64 → Bool),
      c.operator = .known op → op.orders? = some r →
      (∀ x y, (entity.get c.field).StandsFor x → c.value.StandsFor y →
        c.eval entity = .ok (r x y)) ∧
      (¬ c.Stuck entity → (¬ ∃ x y, (entity.get c.field).StandsFor x ∧ c.value.StandsFor y) →
        c.eval entity = .ok false) := by
  refine ⟨?_, evalValue_listToValue, fun c op r known orders => ?_⟩
  · rw [← fails_evalAll_iff]
    refine ⟨fun ⟨verdict, decided⟩ fails => ?_, ok_of_not_fails⟩
    rw [decided] at fails
    exact not_fails_ok verdict fails
  · have same : c.eval entity = holds op (entity.get c.field) c.value := by rw [eval, known]
    rw [same]
    refine ⟨fun x y => Operator.holds_numbers orders, fun decided => ?_⟩
    exact Operator.holds_unordered orders fun stuck => decided ⟨op, known, stuck⟩

/-- A field that is to be less than one. -/
def belowOne (field : String) : Condition where
  field
  operator := .known .lessThan
  value := .float (.finite false Binary64.one)

/-- A deal that is won, with an amount that has no floating-point form. -/
def vastDeal : Fields := [("won", .bool true), ("amount", .int (Nat.pow 10 400))]

theorem vastDeal_sticks : Sticks vastDeal [belowOne "amount"] := by
  have vast {j k : Nat} (large : j ≤ 3 * k) : 2 ^ j ≤ Nat.pow 10 k :=
    calc 2 ^ j ≤ 2 ^ (3 * k) := Nat.pow_le_pow_right Nat.two_pos large
      _ = (2 ^ 3) ^ k := Nat.pow_mul 2 3 k
      _ ≤ Nat.pow 10 k := Nat.pow_le_pow_left (by decide) k
  have stuck {n : Nat} (large : 2 ^ 1024 ≤ n) : (Value.int n).HasNoFloat :=
    Nat.le_trans (Nat.sub_le _ _) large
  exact ⟨[], _, [], rfl, List.forall_mem_nil _, .lessThan, rfl, .inl (stuck (vast (by decide)))⟩

/-- The amount cannot be compared with one, and a truth value is not less than one. -/
theorem vastDeal_undecided :
    (∀ c ∈ [belowOne "amount"], c.operator.IsRead) ∧
      ¬ (∃ verdict, evalValue (.record vastDeal) (listToValue [belowOne "amount"]) = .ok verdict) ∧
      (belowOne "won").operator = .known .lessThan ∧ ¬ (belowOne "won").Stuck vastDeal ∧
      (belowOne "won").eval vastDeal = .ok false := by
  have read : ∀ c ∈ [belowOne "amount"], c.operator.IsRead := by
    simp [belowOne, Open.isRead_known]
  have free : ¬ (belowOne "won").Stuck vastDeal := by
    rintro ⟨op, known, stuck⟩
    cases known
    rcases stuck with left | right
    · cases left
    · cases right
  have apart : ¬ ∃ x y, (vastDeal.get (belowOne "won").field).StandsFor x ∧
      (belowOne "won").value.StandsFor y := by
    rintro ⟨x, y, left, -⟩
    cases left
  obtain ⟨decided, written, orders⟩ := conditions_decided vastDeal [belowOne "amount"]
  refine ⟨read, ?_, rfl, free, (orders (belowOne "won") .lessThan _ rfl rfl).2 free apart⟩
  rw [written read, decided]
  exact not_not_intro vastDeal_sticks

end Condition
end RecordFlow
