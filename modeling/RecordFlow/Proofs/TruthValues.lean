/-
# Truth values — what stands opposite a truth value in an equal value

The operators of conditions keep truth values and numbers apart, but the guard
looks at the two values and not into them.  Two equal values are followed from
the top to any place inside: the parts at one place are equal by number, so a
truth value stands opposite the same truth value or opposite a number that is
as much as it counts.  At the top the guard rules the number out; at the places
below it nothing does, for a value is equal to what it becomes when the two are
exchanged there: `truth_values_opposed`.
-/
import RecordFlow.Proofs.Equivalence
import RecordFlow.Proofs.Magnitudes

namespace RecordFlow

namespace Value

/-! ## Places inside a value -/

/-- A step into a value: to an item of a list or tuple, or to a field of a record. -/
inductive Step where
  | item (index : Nat)
  | field (name : String)
deriving DecidableEq, Repr

/-- The part of a value that a step leads to, if there is one. -/
def child? : Value → Step → Option Value
  | list xs, .item index => xs[index]?
  | tuple xs, .item index => xs[index]?
  | record fs, .field name => Fields.find? fs name
  | _, _ => none

/-- The part of a value at a place, which is given by the steps to it from the top. -/
def part? (v : Value) : List Step → Option Value
  | [] => some v
  | step :: place => (v.child? step).bind fun w => w.part? place

variable {a b v w : Value}

theorem ItemsEqual.getElem? {xs ys : List Value} (h : ItemsEqual xs ys) {index : Nat}
    (here : xs[index]? = some v) : ∃ w, ys[index]? = some w ∧ Equals v w := by
  induction xs generalizing ys index with
  | nil => cases here
  | cons x xs ih =>
      cases h with
      | cons first rest =>
          cases index with
          | zero =>
              obtain rfl := Option.some.inj here
              exact ⟨_, rfl, first⟩
          | succ index => exact ih rest here

/-- A step into the first of two equal values leads to an equal part of the second. -/
theorem Equals.child? (h : Equals a b) {step : Step} (here : a.child? step = some v) :
    ∃ w, b.child? step = some w ∧ Equals v w := by
  cases h with
  | lists items =>
      cases step with
      | item index => exact items.getElem? here
      | field name => cases here
  | tuples items =>
      cases step with
      | item index => exact items.getElem? here
      | field name => cases here
  | records _ fields =>
      cases step with
      | item index => cases here
      | field name =>
          have found : Fields.find? _ name = some v := here
          exact fieldsEqual_iff.mp fields (name, v) (Fields.mem_of_find? found)
  | numbers number =>
      cases a with
      | list | tuple | record => cases number
      | _ => cases here
  | null | text => cases here

/-- At every place of the first of two equal values the second has an equal part. -/
theorem Equals.part? {place : List Step} (h : Equals a b) (here : a.part? place = some v) :
    ∃ w, b.part? place = some w ∧ Equals v w := by
  induction place generalizing a b with
  | nil =>
      obtain rfl := Option.some.inj here
      exact ⟨b, rfl, h⟩
  | cons step place ih =>
      obtain ⟨x, first, rest⟩ := Option.bind_eq_some_iff.mp here
      obtain ⟨y, there, equal⟩ := h.child? first
      obtain ⟨w, found, parts⟩ := ih equal rest
      exact ⟨w, Option.bind_eq_some_iff.mpr ⟨y, there, found⟩, parts⟩

/-! ## Opposite a truth value -/

/-- The number that a truth value counts as. -/
def count (t : Bool) : Int := if t then 1 else 0

theorem count_injective {t u : Bool} (h : count t = count u) : t = u := by
  cases t <;> cases u <;> first | rfl | cases h

/-- What may stand opposite a truth value: the same one, or, below the top only, a number that is
as much as it counts. -/
inductive Opposes (t : Bool) : List Step → Value → Prop
  | same (place : List Step) : Opposes t place (.bool t)
  | counted {step : Step} {place : List Step} {v : Value} : v.isBool = false →
      v.magnitude? = some (.ofInt (count t)) → Opposes t (step :: place) v

/-- At the places that two values have in common, what stands opposite a truth value is the same
one or counts as much below the top, whichever of the two has the truth value. -/
def TruthsOppose (a b : Value) : Prop :=
  ∀ place v w, a.part? place = some v → b.part? place = some w →
    (∀ t, v = .bool t → Opposes t place w) ∧ (∀ t, w = .bool t → Opposes t place v)

/-- At the places that two values have in common, both have a truth value or neither has. -/
def TruthsAligned (a b : Value) : Prop :=
  ∀ place v w, a.part? place = some v → b.part? place = some w → v.isBool = w.isBool

theorem TruthsOppose.aligned (h : TruthsOppose a b)
    (nothing : ∀ place v t, place ≠ [] → a.part? place = some v →
      v.magnitude? ≠ some (.ofInt (count t))) : TruthsAligned a b := by
  intro place v w here there
  obtain ⟨left, right⟩ := h place v w here there
  cases v with
  | bool t =>
      cases left t rfl with
      | same => rfl
      | counted => exact absurd rfl (nothing _ _ t (List.cons_ne_nil _ _) here)
  | _ =>
      cases w with
      | bool t =>
          cases right t rfl with
          | counted _ much => exact absurd much (nothing _ _ t (List.cons_ne_nil _ _) here)
      | _ => rfl

/-- A number in the place of a truth value is that truth value if it is one at all. -/
theorem opposes_of_magnitude {t : Bool} {place : List Step} (guard : place = [] → v.isBool = true)
    (there : v.magnitude? = some (.ofInt (count t))) : Opposes t place v := by
  cases kind : v.isBool with
  | true =>
      cases v with
      | bool u =>
          obtain rfl := count_injective (Magnitude.ofInt_injective (Option.some.inj there))
          exact .same place
      | _ => cases kind
  | false =>
      cases place with
      | nil => exact absurd (guard rfl) (by simp [kind])
      | cons step place => exact .counted kind there

/-- The parts of two equal values at one place are equal, and at the top the guard has looked at
them. -/
theorem truthsOppose_of_same (h : a.same b = .ok true) : TruthsOppose a b := by
  obtain ⟨alike, equal⟩ := same_iff.mp h
  intro place v w here there
  obtain ⟨w', found, parts⟩ := equal.part? here
  obtain rfl := Option.some.inj (there.symm.trans found)
  have guard : place = [] → v.isBool = w.isBool := by
    rintro rfl
    exact Option.some.inj here ▸ Option.some.inj there ▸ alike
  constructor
  · rintro t rfl
    cases parts with
    | numbers _ _ equal =>
        obtain ⟨m, left, right⟩ := equalNumbers_iff.mp equal
        exact opposes_of_magnitude (fun top => (guard top).symm) (right.trans left.symm)
  · rintro t rfl
    cases parts with
    | numbers _ _ equal =>
        obtain ⟨m, left, right⟩ := equalNumbers_iff.mp equal
        exact opposes_of_magnitude guard (left.trans right.symm)

/-! ## Truth values and numbers exchanged -/

/-- The truth value that counts as much as a number, if there is one. -/
def asTruth (v : Value) : Value :=
  if v.magnitude? = some (.ofInt (count true)) then bool true
  else if v.magnitude? = some (.ofInt (count false)) then bool false
  else v

mutual

/-- A value in which a number stands in the place of each truth value, and a truth value in the
place of each number that is as much as one counts. -/
def exchanged : Value → Value
  | list xs => list (exchangedItems xs)
  | tuple xs => tuple (exchangedItems xs)
  | record fs => record (exchangedFields fs)
  | bool t => int (count t)
  | v => v.asTruth

/-- Items with truth values and numbers exchanged. -/
def exchangedItems : List Value → List Value
  | [] => []
  | x :: xs => exchanged x :: exchangedItems xs

/-- Fields with truth values and numbers exchanged. -/
def exchangedFields : List (String × Value) → List (String × Value)
  | [] => []
  | (name, v) :: fs => (name, exchanged v) :: exchangedFields fs

end

theorem exchangedItems_eq (xs : List Value) : exchangedItems xs = xs.map exchanged := by
  induction xs with
  | nil => rfl
  | cons x xs ih => rw [exchangedItems, ih, List.map_cons]

theorem length_exchangedFields (fs : Fields) : (exchangedFields fs).length = fs.length := by
  induction fs with
  | nil => rfl
  | cons f fs ih => rw [exchangedFields, List.length_cons, List.length_cons, ih]

theorem lookup_exchangedFields (fs : Fields) (name : String) :
    (exchangedFields fs).lookup name = (fs.lookup name).map exchanged := by
  induction fs with
  | nil => rfl
  | cons f fs ih =>
      obtain ⟨n, v⟩ := f
      cases same : name == n with
      | true => simp [exchangedFields, List.lookup_cons, same]
      | false => simp [exchangedFields, List.lookup_cons, same, ih]

theorem child?_exchanged (v : Value) (step : Step) :
    v.exchanged.child? step = (v.child? step).map exchanged := by
  cases v with
  | list xs | tuple xs =>
      cases step with
      | item index => simp [exchanged, Value.child?, exchangedItems_eq]
      | field name => rfl
  | record fs =>
      cases step with
      | item index => rfl
      | field name =>
          rw [exchanged, Value.child?, Value.child?, Fields.find?, lookup_exchangedFields]
          rfl
  | null | bool | text => cases step <;> rfl
  | int | float | decimal =>
      show (asTruth _).child? step = _
      rw [asTruth]
      split
      · cases step <;> rfl
      · split <;> cases step <;> rfl

theorem part?_exchanged (v : Value) (place : List Step) :
    v.exchanged.part? place = (v.part? place).map exchanged := by
  induction place generalizing v with
  | nil => rfl
  | cons step place ih =>
      rw [Value.part?, Value.part?, child?_exchanged]
      cases v.child? step with
      | none => rfl
      | some w => exact ih w

theorem asTruth_number (number : v.isNumber = true) :
    v.asTruth.isNumber = true ∧ v.asTruth.magnitude? = v.magnitude? ∧
      v.asTruth.isSignaling = v.isSignaling := by
  rw [asTruth]
  split
  · rename_i place
    exact ⟨rfl, place.symm, (isSignaling_of_place place).symm⟩
  · split
    · rename_i place
      exact ⟨rfl, place.symm, (isSignaling_of_place place).symm⟩
    · exact ⟨number, rfl, rfl⟩

/-- What comes in the place of a number is as much. -/
theorem exchanged_number (number : v.isNumber = true) :
    v.exchanged.isNumber = true ∧ v.exchanged.magnitude? = v.magnitude? ∧
      v.exchanged.isSignaling = v.isSignaling := by
  cases v with
  | bool t => exact ⟨rfl, rfl, rfl⟩
  | int | float | decimal => exact asTruth_number number
  | _ => cases number

theorem isBool_asTruth {t : Bool} (place : v.magnitude? = some (.ofInt (count t))) :
    v.asTruth.isBool = true := by
  rw [asTruth]
  cases t with
  | true =>
      rw [if_pos place]
      rfl
  | false =>
      rw [if_pos place]
      split <;> rfl

/-- Truth values become numbers, and the numbers that are as much become truth values. -/
theorem isBool_exchanged {t : Bool} (place : v.magnitude? = some (.ofInt (count t))) :
    v.exchanged.isBool = !v.isBool := by
  cases v with
  | bool t => rfl
  | int | float | decimal => exact isBool_asTruth place
  | _ => cases place

theorem equal_number_right {w' : Value} (number : w.isNumber = true) (number' : w'.isNumber = true)
    (place : w'.magnitude? = w.magnitude?) (signaling : w'.isSignaling = w.isSignaling) :
    v.equal w' = v.equal w := by
  cases left : v.isNumber with
  | true =>
      rw [equal_numbers left number, equal_numbers left number', equalNumbers, equalNumbers, place,
        signaling]
  | false =>
      cases v <;> cases left <;> cases w <;> cases number <;> cases w' <;> cases number' <;> rfl

mutual

/-- The comparison does not tell truth values and numbers that are as much apart. -/
theorem equal_exchanged (a b : Value) : a.equal b.exchanged = a.equal b := by
  cases number : b.isNumber with
  | true =>
      obtain ⟨number', place, signaling⟩ := exchanged_number number
      exact equal_number_right number number' place signaling
  | false =>
      cases b with
      | null | text => rfl
      | bool | int | float | decimal => cases number
      | list ys =>
          cases a with
          | list xs =>
              rw [exchanged, equal, equal, equalItems_exchanged xs ys, exchangedItems_eq,
                List.length_map]
          | _ => rfl
      | tuple ys =>
          cases a with
          | tuple xs => rw [exchanged, equal, equal, equalItems_exchanged xs ys]
          | _ => rfl
      | record gs =>
          cases a with
          | record fs =>
              rw [exchanged, equal, equal, equalFields_exchanged fs gs, length_exchangedFields]
          | _ => rfl

theorem equalItems_exchanged (xs ys : List Value) :
    equalItems xs (exchangedItems ys) = equalItems xs ys := by
  cases ys with
  | nil => rfl
  | cons y ys =>
      cases xs with
      | nil => rfl
      | cons x xs =>
          rw [exchangedItems, equalItems, equalItems, equal_exchanged x y,
            equalItems_exchanged xs ys]

theorem equalFields_exchanged (fs gs : Fields) :
    equalFields fs (exchangedFields gs) = equalFields fs gs := by
  cases fs with
  | nil => rfl
  | cons f fs =>
      rw [equalFields, equalFields, equalFields_exchanged fs gs, lookup_exchangedFields]
      cases gs.lookup f.1 with
      | none => rfl
      | some w => simp only [Option.map_some, equal_exchanged f.2 w]

end

theorem exists_of_sameAsAny {xs : List Value} (h : a.sameAsAny xs = .ok true) :
    ∃ x ∈ xs, a.same x = .ok true := by
  induction xs with
  | nil => cases h
  | cons x xs ih =>
      rw [sameAsAny] at h
      split at h
      · obtain ⟨y, mem, same⟩ := ih h
        exact ⟨y, List.mem_cons_of_mem _ mem, same⟩
      · exact ⟨x, List.mem_cons_self, h⟩

end Value

namespace Condition

open Value (TruthsAligned TruthsOppose)

/-- A value with parts is equal to what it becomes when truth values and numbers in it are
exchanged. -/
theorem equals_exchanged {a : Value} (comparable : a.IsComparable) {step : Value.Step}
    {place : List Value.Step} {v : Value} (here : a.part? (step :: place) = some v) :
    holds .equals a a.exchanged = .ok true := by
  obtain ⟨w, first, -⟩ := Option.bind_eq_some_iff.mp here
  have alike : a.isBool = a.exchanged.isBool := by
    cases a with
    | list | tuple | record => rfl
    | _ => cases first
  have itself : a.equal a = .ok true := Value.equal_iff.mpr (.refl comparable)
  show a.same a.exchanged = .ok true
  rw [Value.same, if_pos alike, Value.equal_exchanged, itself]

/-- Opposite a truth value of a value that "equals" or "in" finds equal stands the same truth
value, or below the top a number that is as much.  Just the values with nothing below the top that
is as much as a truth value have truth values opposite truth values alone. -/
theorem truth_values_opposed (a : Value) :
    (∀ b, holds .equals a b = .ok true → TruthsOppose a b) ∧
    (∀ c, holds .isIn a c = .ok true → ∃ items, c.items? = some items ∧
      ∃ x ∈ items, holds .equals a x = .ok true ∧ TruthsOppose a x) ∧
    (a.IsComparable →
      ((∀ b, holds .equals a b = .ok true → TruthsAligned a b) ↔
        ∀ place v t, place ≠ [] → a.part? place = some v →
          v.magnitude? ≠ some (.ofInt (Value.count t)))) := by
  refine ⟨fun b => Value.truthsOppose_of_same, ?member, fun comparable => ⟨?_, ?_⟩⟩
  case member =>
    intro c h
    cases listed : c.items? with
    | none => simp [holds, isMember, listed] at h
    | some items =>
        have tried : a.sameAsAny items = .ok true := (isMember_of_items listed).symm.trans h
        obtain ⟨x, mem, same⟩ := Value.exists_of_sameAsAny tried
        exact ⟨items, rfl, x, mem, same, Value.truthsOppose_of_same same⟩
  · intro aligned place v t below here much
    cases place with
    | nil => exact below rfl
    | cons step place =>
        have there : a.exchanged.part? (step :: place) = some v.exchanged := by
          rw [Value.part?_exchanged, here]
          rfl
        have same := aligned _ (equals_exchanged comparable here) _ _ _ here there
        rw [Value.isBool_exchanged much] at same
        simp at same
  · intro nothing b h
    exact (Value.truthsOppose_of_same h).aligned nothing

/-- Whether a contact gets mail, with every answer in a list. -/
def consents : Value := .record [("consents", .list [.bool true, .bool false])]

/-- The answers written as numbers are equal to the answers, so not every value that is equal to
them has truth values where they have; and a list with a number is found where one with a truth
value stands. -/
theorem consents_exchanged :
    consents.IsComparable ∧
      holds .equals consents (.record [("consents", .list [.int 1, .int 0])]) = .ok true ∧
      TruthsOppose consents (.record [("consents", .list [.int 1, .int 0])]) ∧
      (¬ ∀ b, holds .equals consents b = .ok true → TruthsAligned consents b) ∧
      holds .isIn (.list [.bool true]) (.list [.null, .list [.int 1]]) = .ok true ∧
      TruthsOppose (.list [.bool true]) (.list [.int 1]) := by
  have comparable : consents.IsComparable := .record (by decide)
    (by simp [Value.IsComparable.list, Value.IsComparable.bool])
  obtain ⟨opposed, -, only⟩ := truth_values_opposed consents
  have first : consents.part? [.field "consents", .item 0] = some (.bool true) := rfl
  have equal := equals_exchanged comparable first
  have alone : (Value.list [.bool true]).part? [.item 0] = some (.bool true) := rfl
  have one : Value.same (.list [.bool true]) (.list [.int 1]) = .ok true :=
    equals_exchanged (.list (by simp [Value.IsComparable.bool])) alone
  have listed : holds .isIn (.list [.bool true]) (.list [.null, .list [.int 1]]) = .ok true := by
    rw [holds, isMember_of_items rfl, Value.sameAsAny, Value.sameAsAny, one]
    rfl
  refine ⟨comparable, equal, opposed _ equal, fun aligned => ?_, listed, ?_⟩
  · exact (only comparable).mp aligned _ _ true (List.cons_ne_nil _ _) first rfl
  · obtain ⟨-, found, -⟩ := truth_values_opposed (.list [.bool true])
    obtain ⟨items, same, x, mem, equal, opposes⟩ := found _ listed
    obtain rfl := Option.some.inj same
    simp only [List.mem_cons, List.not_mem_nil, or_false] at mem
    rcases mem with rfl | rfl
    · cases equal
    · exact opposes

end Condition
end RecordFlow
