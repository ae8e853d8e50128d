/-
# Unchanged — writes that keep a value, and what a trigger makes of them

A trigger on a field sees a change where the texts before and after differ.
Two equal values have one text just when they are written alike: the same in
every part, down to the order of fields, the digits of a decimal and the sign
of a zero, or two numbers that by themselves keep nothing of how they were
written.  So a write that keeps a value may still fire such a trigger:
`kept_fires` tells when.
-/
import RecordFlow.Proofs.Crossings
import RecordFlow.Proofs.Equality
import RecordFlow.Proofs.Writings

namespace RecordFlow

namespace Value

/-! ## Values inside larger texts -/

/-- A value whose records, however deep they lie, have each name once. -/
inductive WellNamed : Value → Prop
  | plain {v : Value} : v.items? = none → v.fields? = none → WellNamed v
  | list {xs : List Value} : (∀ x ∈ xs, WellNamed x) → WellNamed (list xs)
  | tuple {xs : List Value} : (∀ x ∈ xs, WellNamed x) → WellNamed (tuple xs)
  | record {fs : Fields} : (fs.map Prod.fst).Nodup → (∀ f ∈ fs, WellNamed f.2) →
      WellNamed (record fs)

/-- What stands between a part of a larger text and the parts after it. -/
def between {α : Type} : List α → List Char
  | [] => []
  | _ :: _ => [',', ' ']

/-- What closes a tuple of so many items. -/
def tupleEnd (count : Nat) : List Char := if count = 1 then [',', ')'] else [')']

theorem spelled_list (xs : List Value) (r : List Char) :
    (list xs).spelled.toList ++ r = '[' :: ((spelledItems xs).toList ++ ']' :: r) := by
  simp [spelled]

theorem spelled_tuple (xs : List Value) (r : List Char) :
    (tuple xs).spelled.toList ++ r
      = '(' :: ((spelledItems xs).toList ++ (tupleEnd xs.length ++ r)) := by
  match xs with
  | [] => simp [spelled, spelledItems, tupleEnd]
  | [x] => simp [spelled, spelledItems, tupleEnd]
  | x :: y :: rest => simp [spelled, tupleEnd]

theorem spelled_record (fs : Fields) (r : List Char) :
    (record fs).spelled.toList ++ r = '\x7b' :: ((spelledFields fs).toList ++ '\x7d' :: r) := by
  simp [spelled]

theorem spelledItems_cons (x : Value) (xs : List Value) (r : List Char) :
    (spelledItems (x :: xs)).toList ++ r
      = x.spelled.toList ++ (between xs ++ ((spelledItems xs).toList ++ r)) := by
  cases xs with
  | nil => simp [spelledItems, between]
  | cons y ys => simp [spelledItems, between]

theorem spelledFields_cons (name : String) (v : Value) (fs : Fields) (r : List Char) :
    (spelledFields ((name, v) :: fs)).toList ++ r
      = (Text.quoted name).toList ++ (':' :: ' ' :: (v.spelled.toList ++
          (between fs ++ ((spelledFields fs).toList ++ r)))) := by
  match fs with
  | [] => simp [spelledFields, between]
  | (n, w) :: rest => simp [spelledFields, between]

theorem stops_cons {c : Char} (stop : c ∈ stops) (cs : List Char) : Stops (c :: cs) := by
  intro d first
  exact Option.some.inj first ▸ stop

theorem stops_tupleEnd (count : Nat) (r : List Char) : Stops (tupleEnd count ++ r) := by
  unfold tupleEnd
  split <;> exact stops_cons (by decide) _

theorem stops_items {xs : List Value} {r : List Char} (ends : Stops r) :
    Stops (between xs ++ ((spelledItems xs).toList ++ r)) := by
  cases xs with
  | nil => simpa [between, spelledItems] using ends
  | cons x xs => exact stops_cons (by decide) _

theorem stops_fields {fs : Fields} {r : List Char} (ends : Stops r) :
    Stops (between fs ++ ((spelledFields fs).toList ++ r)) := by
  cases fs with
  | nil => simpa [between, spelledFields] using ends
  | cons f fs => exact stops_cons (by decide) _

theorem between_congr {α β : Type} {xs : List α} {ys : List β} (size : xs.length = ys.length) :
    between xs = between ys := by
  cases xs <;> cases ys
  · rfl
  · cases size
  · cases size
  · rfl

/-- A value is told by its text from the values that are equal to it, and from what follows. -/
def IsToldApart (a : Value) : Prop :=
  ∀ b, Equals a b → ∀ r s, Stops r → Stops s →
    a.spelled.toList ++ r = b.spelled.toList ++ s → a = b ∧ r = s

theorem items_toldApart {xs ys : List Value} (each : ∀ x ∈ xs, IsToldApart x)
    (equal : ItemsEqual xs ys) {r s : List Char} (leftEnds : Stops r) (rightEnds : Stops s)
    (same : (spelledItems xs).toList ++ r = (spelledItems ys).toList ++ s) : xs = ys ∧ r = s := by
  induction xs generalizing ys with
  | nil =>
      cases equal
      exact ⟨rfl, same⟩
  | cons x xs ih =>
      cases equal with
      | cons first rest =>
          rw [spelledItems_cons, spelledItems_cons] at same
          obtain ⟨rfl, more⟩ := each x List.mem_cons_self _ first _ _ (stops_items leftEnds)
            (stops_items rightEnds) same
          rw [between_congr rest.length_eq, List.append_cancel_left_eq] at more
          obtain ⟨rfl, rfl⟩ := ih (fun y mem => each y (List.mem_cons_of_mem x mem)) rest more
          exact ⟨rfl, rfl⟩

/-- Fields are compared in the order in which they stand, and each is looked for among all the
fields of the other record: among those that stand in front as well. -/
theorem fields_toldApart {fs hs front : Fields} (each : ∀ f ∈ fs, IsToldApart f.2)
    (once : (fs.map Prod.fst).Nodup) (equal : FieldsEqual fs (front ++ hs))
    (apart : ∀ f ∈ fs, f.1 ∉ front.map Prod.fst) (size : fs.length = hs.length)
    {r s : List Char} (leftEnds : Stops r) (rightEnds : Stops s)
    (same : (spelledFields fs).toList ++ r = (spelledFields hs).toList ++ s) : fs = hs ∧ r = s := by
  induction fs generalizing hs front with
  | nil =>
      obtain rfl := List.eq_nil_of_length_eq_zero size.symm
      exact ⟨rfl, same⟩
  | cons f fs ih =>
      obtain ⟨name, v⟩ := f
      obtain ⟨⟨other, u⟩, hs, rfl⟩ := List.exists_of_length_succ hs size.symm
      rw [spelledFields_cons, spelledFields_cons] at same
      obtain ⟨rfl, value⟩ := Text.quoted_append_inj same
      rw [List.cons.injEq, List.cons.injEq] at value
      cases equal with
      | cons found first rest =>
          rw [Fields.find?_append_of_fresh (apart _ List.mem_cons_self), Option.some.injEq] at found
          subst found
          obtain ⟨rfl, more⟩ := each _ List.mem_cons_self _ first _ _ (stops_fields leftEnds)
            (stops_fields rightEnds) value.2.2
          have sizes : fs.length = hs.length := Nat.succ.inj size
          rw [between_congr sizes, List.append_cancel_left_eq] at more
          obtain ⟨new, later⟩ := List.nodup_cons.mp once
          have fresh : ∀ f ∈ fs, f.1 ∉ (front ++ [(name, v)]).map Prod.fst := by
            intro f mem
            rw [List.map_append, List.mem_append, not_or]
            refine ⟨apart f (List.mem_cons_of_mem _ mem), fun here => new ?_⟩
            rw [← List.mem_singleton.mp here]
            exact List.mem_map_of_mem mem
          rw [List.append_cons] at rest
          obtain ⟨rfl, rfl⟩ := ih (fun f mem => each f (List.mem_cons_of_mem _ mem)) later rest
            fresh sizes more
          exact ⟨rfl, rfl⟩

/-- Where each name stands once, equal values that stand for the same characters of a larger text
are the same, down to the order of their fields. -/
theorem WellNamed.isToldApart {a : Value} (named : a.WellNamed) : IsToldApart a := by
  induction named with
  | plain noItems noFields =>
      intro b equal r s leftEnds rightEnds same
      cases equal with
      | null => exact ⟨rfl, List.append_cancel_left same⟩
      | text t => exact ⟨rfl, List.append_cancel_left same⟩
      | numbers left right equal =>
          exact spelled_number_append_inj left right equal leftEnds rightEnds same
      | lists | tuples => cases noItems
      | records => cases noFields
  | list _ ih =>
      intro b equal r s _ _ same
      cases equal with
      | numbers left => cases left
      | lists items =>
          rw [spelled_list, spelled_list, List.cons.injEq] at same
          obtain ⟨rfl, rest⟩ := items_toldApart ih items (stops_cons (by decide) _)
            (stops_cons (by decide) _) same.2
          exact ⟨rfl, (List.cons.inj rest).2⟩
  | tuple _ ih =>
      intro b equal r s _ _ same
      cases equal with
      | numbers left => cases left
      | tuples items =>
          rw [spelled_tuple, spelled_tuple, List.cons.injEq] at same
          obtain ⟨rfl, rest⟩ := items_toldApart ih items (stops_tupleEnd _ _) (stops_tupleEnd _ _)
            same.2
          exact ⟨rfl, List.append_cancel_left rest⟩
  | record once _ ih =>
      intro b equal r s _ _ same
      cases equal with
      | numbers left => cases left
      | @records _ gs size fields =>
          rw [spelled_record, spelled_record, List.cons.injEq] at same
          rw [← List.nil_append gs] at fields
          obtain ⟨rfl, rest⟩ := fields_toldApart ih once fields nofun size
            (stops_cons (by decide) _) (stops_cons (by decide) _) same.2
          exact ⟨rfl, (List.cons.inj rest).2⟩

theorem WellNamed.eq_of_spelled {a b : Value} (named : a.WellNamed) (equal : Equals a b)
    (same : a.spelled = b.spelled) : a = b :=
  (named.isToldApart b equal [] [] nofun nofun (by rw [same])).1

/-! ## Values by themselves -/

/-- A number that keeps nothing of how it was written. -/
inductive IsFormless : Value → Prop
  | int (n : Int) : IsFormless (int n)
  | float (x : Binary64) : IsFormless (float x)

/-- Two values are written alike: they are the same in every part, or by themselves two numbers
that keep nothing of how they were written, or one such number and a decimal that was written with
its digits. -/
inductive WrittenAlike : Value → Value → Prop
  | same (v : Value) : WrittenAlike v v
  | numbers {a b : Value} : a.IsFormless → b.IsFormless → WrittenAlike a b
  | decimalFirst {d : Decimal} {b : Value} : b.IsFormless → d.toText = b.worded →
      WrittenAlike (decimal d) b
  | decimalSecond {a : Value} {d : Decimal} : a.IsFormless → a.worded = d.toText →
      WrittenAlike a (decimal d)

theorem worded_float {x : Binary64} {n : Int} (whole : x.toInt? = some n) :
    (float x).worded = toString n := by
  rw [worded, whole]

theorem toInt?_zero (negative : Bool) : (Binary64.finite negative 0).toInt? = some 0 := by
  cases negative <;> simp [Binary64.toInt?, Binary64.signed]

/-- A number that keeps no form has the text of its value. -/
theorem IsFormless.worded_eq {a b : Value} (left : a.IsFormless) (right : b.IsFormless)
    (equal : equalNumbers a b = .ok true) : a.worded = b.worded := by
  obtain ⟨m, here, there⟩ := equalNumbers_iff.mp equal
  cases left with
  | int n =>
      have place : m = .ofInt n := (Option.some.inj here).symm
      cases right with
      | int k =>
          have other : m = .ofInt k := (Option.some.inj there).symm
          rw [Magnitude.ofInt_injective (place.symm.trans other)]
      | float x => exact (worded_float (Binary64.toInt?_of_equal (place ▸ there))).symm
  | float x =>
      cases right with
      | int n =>
          have place : m = .ofInt n := (Option.some.inj there).symm
          exact worded_float (Binary64.toInt?_of_equal (place ▸ here))
      | float y =>
          rcases Binary64.eq_of_equal here there with rfl | ⟨s, t, rfl, rfl⟩
          · rfl
          · rw [worded_float (toInt?_zero s), worded_float (toInt?_zero t)]

theorem IsFormless.equalNumbers {a b : Value} (left : a.IsFormless) (equal : Equals a b) :
    a.equalNumbers b = .ok true := by
  cases left <;> cases equal <;> assumption

/-- A number that is no truth value keeps no form, or it is a decimal. -/
theorem formless_or_decimal {v : Value} (number : v.isNumber = true) (noBool : v.isBool = false) :
    v.IsFormless ∨ ∃ d, v = decimal d := by
  cases v with
  | int n => exact .inl (.int n)
  | float x => exact .inl (.float x)
  | decimal d => exact .inr ⟨d, rfl⟩
  | bool b => cases noBool
  | _ => cases number

/-- Equal numbers by themselves have one text only if they are written alike. -/
theorem writtenAlike_of_numbers {a b : Value} (left : a.isNumber = true) (right : b.isNumber = true)
    (bools : a.isBool = b.isBool) (equal : equalNumbers a b = .ok true)
    (text : a.worded = b.worded) : WrittenAlike a b := by
  obtain ⟨m, here, there⟩ := equalNumbers_iff.mp equal
  cases kind : a.isBool with
  | true =>
      rw [kind] at bools
      cases a <;> cases kind
      cases b <;> cases bools
      rename_i c d
      cases c <;> cases d
      · exact .same _
      · exact absurd text (by decide)
      · exact absurd text (by decide)
      · exact .same _
  | false =>
      rcases formless_or_decimal left kind with formless | ⟨d, rfl⟩ <;>
        rcases formless_or_decimal right (bools ▸ kind) with other | ⟨e, rfl⟩
      · exact .numbers formless other
      · exact .decimalSecond formless text
      · exact .decimalFirst other text
      · rw [Decimal.toText_injective here there text]
        exact .same _

/-- Two equal values have one text just when they are written alike. -/
theorem worded_eq_iff {a b : Value} (named : a.WellNamed) (kept : a.same b = .ok true) :
    a.worded = b.worded ↔ WrittenAlike a b := by
  obtain ⟨bools, equal⟩ := same_iff.mp kept
  constructor
  · intro text
    have inside : a.worded = a.spelled → b.worded = b.spelled → WrittenAlike a b := by
      intro left right
      rw [left, right] at text
      rw [named.eq_of_spelled equal text]
      exact .same b
    cases equal with
    | null => exact .same null
    | text t => exact .same _
    | numbers left right equal => exact writtenAlike_of_numbers left right bools equal text
    | lists => exact inside rfl rfl
    | tuples => exact inside rfl rfl
    | records => exact inside rfl rfl
  · intro alike
    cases alike with
    | same => rfl
    | numbers left right => exact left.worded_eq right (left.equalNumbers equal)
    | decimalFirst _ text => exact text
    | decimalSecond _ text => exact text

end Value

namespace Trigger

open Value (WellNamed WrittenAlike)

/-! ## The trigger on a field -/

theorem admitsMove_self (t : Trigger) (text : String) : t.admitsMove text text = false := by
  simp [admitsMove]

/-- A trigger that is not narrowed to texts before and after a move admits every move. -/
theorem admitsMove_wide {t : Trigger} (before : given? t.fromValue = none)
    (after : given? t.toValue = none) {previous current : String} (moved : previous ≠ current) :
    t.admitsMove previous current = true := by
  simp [admitsMove, before, after, moved]

/-- Where a write keeps the value of a field, and the value can be written out before and after it,
no trigger on the field fires if it is written as it was before; else every trigger on the field
fires that asks for nothing more.  Where it cannot be written out, it can be told of no trigger on
the field whether it fires. -/
theorem kept_fires {c : Context} {name : String} (named : name ≠ "")
    (once : (c.previous name .null).WellNamed)
    (kept : Condition.holds .equals (c.previous name .null) (c.get name .null) = .ok true) :
    (¬(c.previous name .null).HoldsLong ∧ ¬(c.get name .null).HoldsLong →
      (WrittenAlike (c.previous name .null) (c.get name .null) →
        ∀ (t : Trigger) (kind : Open TriggerKind), t.kind = .known .fieldChanged →
          t.field = some name → t.fires kind c = .ok false) ∧
      (¬WrittenAlike (c.previous name .null) (c.get name .null) →
        ∀ t : Trigger, t.kind = .known .fieldChanged → t.field = some name →
          given? t.fromValue = none → given? t.toValue = none → t.conditions = [] →
            t.fires (.known .fieldChanged) c = .ok true)) ∧
    ((c.previous name .null).HoldsLong ∨ (c.get name .null).HoldsLong →
      ∀ t : Trigger, t.kind = .known .fieldChanged → t.field = some name →
        t.fires (.known .fieldChanged) c = .error .tooManyDigits) := by
  have texts := Value.worded_eq_iff once kept
  have seen (fs : Fields) : watched fs (some name) = fs.get name := by
    rw [watched, given?_of_ne named]
  constructor
  · rintro ⟨before, after⟩
    have previous : stageText (c.previousValues.getD []) (some name)
        = .ok (c.previous name .null).worded := by
      rw [stageText_field named]
      exact Value.written_of_short before
    have current : stageText c.entity (some name) = .ok (c.get name .null).worded := by
      rw [stageText_field named]
      exact Value.written_of_short after
    have admits {t : Trigger} (watches : t.field = some name) :
        t.admitsChange (.known .fieldChanged) c
          = .ok (t.admitsMove (c.previous name .null).worded (c.get name .null).worded) := by
      rw [admitsChange_watching (.field named) watches, previous, current]
      rfl
    constructor
    · intro alike t kind isField watches
      rw [fires]
      split
      · rename_i same
        rw [← same, isField, admits watches, texts.mpr alike, admitsMove_self]
        rfl
      · rfl
    · intro unlike t isField watches before after plain
      have moved := fun text => unlike (texts.mp text)
      rw [fires_unconditional isField plain, admits watches, admitsMove_wide before after moved]
  · intro long t isField watches
    refine fires_of_not_shows (.field named) isField watches fun shows => ?_
    rw [Shows, Shows, seen, seen] at shows
    exact long.elim shows.1 shows.2

theorem equals_of_numbers {a b : Value} (left : a.isNumber = true) (right : b.isNumber = true)
    (bools : a.isBool = b.isBool) (equal : a.equalNumbers b = .ok true) :
    Condition.holds .equals a b = .ok true := by
  rw [Condition.holds, Value.same, if_pos bools, Value.equal_numbers left right, equal]

/-- A trigger on the amount of a record. -/
def onAmount : Trigger := { kind := .known .fieldChanged, field := some "amount" }

/-- A write on the amount of a deal. -/
def amountWritten (previous current : Value) : Context where
  entityType := "deals"
  entityId := "d1"
  entity := [("amount", current)]
  previousValues := some [("amount", previous)]

/-- A write of 1.00 in the place of 1.0. -/
def repriced : Context :=
  amountWritten (.decimal (.finite false 10 (-1))) (.decimal (.finite false 100 (-2)))

theorem repriced_kept :
    Condition.holds .equals (repriced.previous "amount" .null) (repriced.get "amount" .null)
      = .ok true := by
  have place : Magnitude.ofScaled false 10 (-1) = Magnitude.ofScaled false 100 (-2) := by
    simp [Magnitude.ofScaled, Magnitude.trimmed]
  have equal : Value.equalNumbers (.decimal (.finite false 10 (-1)))
      (.decimal (.finite false 100 (-2))) = .ok true := by
    simp [Value.equalNumbers, Value.isSignaling, Decimal.isSignaling, Value.magnitude?,
      Magnitude.ofDecimal?, place]
  exact equals_of_numbers rfl rfl rfl equal

/-- A decimal written with one more zero is the same value, and yet a change. -/
theorem repriced_fires :
    onAmount.kind = .known .fieldChanged ∧ onAmount.field = some "amount" ∧ "amount" ≠ "" ∧
      Condition.holds .equals (repriced.previous "amount" .null) (repriced.get "amount" .null)
        = .ok true ∧
      onAmount.fires (.known .fieldChanged) repriced = .ok true :=
  ⟨rfl, rfl, by decide, repriced_kept, by decide⟩

/-- A write of a floating-point minus zero in the place of zero. -/
def zeroed : Context := amountWritten (.int 0) (.float (.finite true 0))

theorem zeroed_kept :
    Condition.holds .equals (zeroed.previous "amount" .null) (zeroed.get "amount" .null)
      = .ok true := by
  have place : Magnitude.ofBinary64? (.finite true 0) = some (.ofInt 0) := by
    simp [Magnitude.ofBinary64?, Magnitude.ofInt, Magnitude.ofScaled, Magnitude.trimmed]
  have equal : Value.equalNumbers (.int 0) (.float (.finite true 0)) = .ok true := by
    simp [Value.equalNumbers, Value.isSignaling, Value.magnitude?, place]
  exact equals_of_numbers rfl rfl rfl equal

/-- The address of a deal with its two fields in the one order or in the other. -/
def readdressed : Context :=
  amountWritten (.record [("city", .text "Bonn"), ("zip", .text "53111")])
    (.record [("zip", .text "53111"), ("city", .text "Bonn")])

/-- A write that leaves an amount as it is that has too many digits. -/
def vastlyPriced : Context := amountWritten .leastLong .leastLong

theorem vastlyPriced_kept :
    Condition.holds .equals (vastlyPriced.previous "amount" .null)
      (vastlyPriced.get "amount" .null) = .ok true :=
  equals_of_numbers rfl rfl rfl (Value.equalNumbers_iff.mpr ⟨_, rfl, rfl⟩)

/-- A zero in floating point is no change, another order of fields is one, and of an amount with
too many digits it cannot be told. -/
theorem zeroed_readdressed_fires :
    "amount" ≠ "" ∧
    ((zeroed.previous "amount" .null).WellNamed ∧
      (¬(zeroed.previous "amount" .null).HoldsLong ∧ ¬(zeroed.get "amount" .null).HoldsLong) ∧
      Condition.holds .equals (zeroed.previous "amount" .null) (zeroed.get "amount" .null)
        = .ok true ∧
      onAmount.fires (.known .fieldChanged) zeroed = .ok false) ∧
    ((readdressed.previous "amount" .null).WellNamed ∧
      (¬(readdressed.previous "amount" .null).HoldsLong ∧
        ¬(readdressed.get "amount" .null).HoldsLong) ∧
      Condition.holds .equals (readdressed.previous "amount" .null) (readdressed.get "amount" .null)
        = .ok true ∧
      onAmount.fires (.known .fieldChanged) readdressed = .ok true) ∧
    ((vastlyPriced.previous "amount" .null).WellNamed ∧
      Condition.holds .equals (vastlyPriced.previous "amount" .null)
        (vastlyPriced.get "amount" .null) = .ok true ∧
      onAmount.fires (.known .fieldChanged) vastlyPriced = .error .tooManyDigits) := by
  have named : "amount" ≠ "" := by decide
  have zeroedOnce : (zeroed.previous "amount" .null).WellNamed := .plain rfl rfl
  have readdressedOnce : (readdressed.previous "amount" .null).WellNamed := by
    refine .record (by decide) fun f mem => ?_
    simp only [List.mem_cons, List.not_mem_nil, or_false] at mem
    rcases mem with rfl | rfl <;> exact .plain rfl rfl
  have readdressedKept : Condition.holds .equals (readdressed.previous "amount" .null)
      (readdressed.get "amount" .null) = .ok true := by rfl
  have vastOnce : (vastlyPriced.previous "amount" .null).WellNamed := .plain rfl rfl
  have short {v : Value} (writable : v.isWritable = true) : ¬v.HoldsLong :=
    Value.isWritable_iff.mp writable
  have zeroedShort : ¬(zeroed.previous "amount" .null).HoldsLong ∧
      ¬(zeroed.get "amount" .null).HoldsLong := ⟨short rfl, short rfl⟩
  have readdressedShort : ¬(readdressed.previous "amount" .null).HoldsLong ∧
      ¬(readdressed.get "amount" .null).HoldsLong := ⟨short rfl, short rfl⟩
  have unlike : ¬WrittenAlike (readdressed.previous "amount" .null)
      (readdressed.get "amount" .null) := by
    intro alike
    exact absurd ((Value.worded_eq_iff readdressedOnce readdressedKept).mpr alike) (by decide)
  exact ⟨named,
    ⟨zeroedOnce, zeroedShort, zeroed_kept, ((kept_fires named zeroedOnce zeroed_kept).1
      zeroedShort).1 (.numbers (.int 0) (.float _)) onAmount _ rfl rfl⟩,
    ⟨readdressedOnce, readdressedShort, readdressedKept,
      ((kept_fires named readdressedOnce readdressedKept).1 readdressedShort).2
        unlike onAmount rfl rfl rfl rfl rfl⟩,
    ⟨vastOnce, vastlyPriced_kept, (kept_fires named vastOnce vastlyPriced_kept).2
      (.inl Value.holdsLong_leastLong) onAmount rfl rfl⟩⟩

end Trigger
end RecordFlow
