/-
# Equality — when two values are equal

Two values are equal when they are null, the same text or numbers in one place;
lists and tuples when they are equal item by item; records when they have as
many fields and each field of the one has an equal field in the other, wherever
it stands.  The comparison finds out just that: `equal_iff`.
-/
import RecordFlow.Value.Equal

namespace RecordFlow

namespace Value

mutual

/-- Two values are equal. -/
inductive Equals : Value → Value → Prop
  | null : Equals null null
  | text (s : String) : Equals (text s) (text s)
  | numbers {a b : Value} : a.isNumber = true → b.isNumber = true →
      equalNumbers a b = .ok true → Equals a b
  | lists {xs ys : List Value} : ItemsEqual xs ys → Equals (list xs) (list ys)
  | tuples {xs ys : List Value} : ItemsEqual xs ys → Equals (tuple xs) (tuple ys)
  | records {fs gs : Fields} : fs.length = gs.length → FieldsEqual fs gs →
      Equals (record fs) (record gs)

/-- Two sequences are equal item by item. -/
inductive ItemsEqual : List Value → List Value → Prop
  | nil : ItemsEqual [] []
  | cons {x y : Value} {xs ys : List Value} : Equals x y → ItemsEqual xs ys →
      ItemsEqual (x :: xs) (y :: ys)

/-- Each field of the first record has an equal one in the second. -/
inductive FieldsEqual : Fields → Fields → Prop
  | nil (gs : Fields) : FieldsEqual [] gs
  | cons {name : String} {v w : Value} {fs gs : Fields} : Fields.find? gs name = some w →
      Equals v w → FieldsEqual fs gs → FieldsEqual ((name, v) :: fs) gs

end

theorem ItemsEqual.length_eq {xs ys : List Value} (h : ItemsEqual xs ys) :
    xs.length = ys.length := by
  match h with
  | .nil => rfl
  | .cons _ rest => rw [List.length_cons, List.length_cons, rest.length_eq]

theorem equal_numbers {a b : Value} (left : a.isNumber = true) (right : b.isNumber = true) :
    a.equal b = equalNumbers a b := by
  cases a <;> cases left <;> cases b <;> cases right <;> rfl

mutual

theorem Equals.equal_true {a b : Value} (h : Equals a b) : a.equal b = .ok true := by
  cases h with
  | null => rfl
  | text s => rw [equal, decide_eq_true rfl]
  | numbers left right same => rw [equal_numbers left right, same]
  | lists items => rw [equal, if_pos items.length_eq, items.equal_true]
  | tuples items => rw [equal, items.equal_true]
  | records same fields => rw [equal, if_pos same, fields.equal_true]

theorem ItemsEqual.equal_true {xs ys : List Value} (h : ItemsEqual xs ys) :
    equalItems xs ys = .ok true := by
  cases h with
  | nil => rfl
  | cons first rest => rw [equalItems, first.equal_true, rest.equal_true]

theorem FieldsEqual.equal_true {fs gs : Fields} (h : FieldsEqual fs gs) :
    equalFields fs gs = .ok true := by
  cases h with
  | nil => rfl
  | cons found first rest =>
      rw [Fields.find?] at found
      simp only [equalFields, found, first.equal_true, rest.equal_true]

end

mutual

theorem equals_of_equal (a b : Value) (h : a.equal b = .ok true) : Equals a b := by
  unfold equal at h
  split at h
  · exact .null
  · obtain rfl := of_decide_eq_true (Except.ok.inj h)
    exact .text _
  · split at h
    · exact .lists (itemsEqual_of_equalItems _ _ h)
    · cases h
  · exact .tuples (itemsEqual_of_equalItems _ _ h)
  · split at h
    · rename_i same
      exact .records same (fieldsEqual_of_equalFields _ _ h)
    · cases h
  · split at h
    · rename_i numbers
      obtain ⟨left, right⟩ := Bool.and_eq_true_iff.mp numbers
      exact .numbers left right h
    · cases h

theorem itemsEqual_of_equalItems (xs ys : List Value) (h : equalItems xs ys = .ok true) :
    ItemsEqual xs ys := by
  unfold equalItems at h
  split at h
  · exact .nil
  · split at h
    · rename_i same
      exact .cons (equals_of_equal _ _ same) (itemsEqual_of_equalItems _ _ h)
    · rename_i other
      exact absurd h other
  · cases h

theorem fieldsEqual_of_equalFields (fs gs : Fields) (h : equalFields fs gs = .ok true) :
    FieldsEqual fs gs := by
  unfold equalFields at h
  split at h
  · exact .nil gs
  · split at h
    · cases h
    · rename_i found
      split at h
      · rename_i same
        exact .cons found (equals_of_equal _ _ same) (fieldsEqual_of_equalFields _ _ h)
      · rename_i other
        exact absurd h other

end

/-- The comparison finds two values equal just when they are. -/
theorem equal_iff {a b : Value} : a.equal b = .ok true ↔ Equals a b :=
  ⟨equals_of_equal a b, Equals.equal_true⟩

/-- The comparison of the operators has one more condition. -/
theorem same_iff {a b : Value} : a.same b = .ok true ↔ a.isBool = b.isBool ∧ Equals a b := by
  rw [same]
  split
  · rename_i alike
    rw [equal_iff, and_iff_right alike]
  · rename_i unlike
    exact iff_of_false nofun fun h => unlike h.1

/-! ## Parts of equal values -/

theorem isSignaling_of_place {v : Value} {m : Magnitude} (there : v.magnitude? = some m) :
    v.isSignaling = false := by
  cases v with
  | decimal d =>
      cases d with
      | nan => cases there
      | _ => rfl
  | _ => rfl

/-- Numbers are equal when they are in one place. -/
theorem equalNumbers_iff {a b : Value} :
    equalNumbers a b = .ok true ↔ ∃ m, a.magnitude? = some m ∧ b.magnitude? = some m := by
  rw [equalNumbers]
  constructor
  · intro equal
    split at equal
    · cases equal
    · split at equal
      · rename_i x y left right
        obtain rfl := of_decide_eq_true (Except.ok.inj equal)
        exact ⟨x, left, right⟩
      · cases equal
  · rintro ⟨m, left, right⟩
    rw [isSignaling_of_place left, isSignaling_of_place right, left, right]
    exact congrArg Except.ok (decide_eq_true rfl)

/-- A record is read field by field. -/
theorem fieldsEqual_iff {fs gs : Fields} :
    FieldsEqual fs gs ↔ ∀ f ∈ fs, ∃ w, Fields.find? gs f.1 = some w ∧ Equals f.2 w := by
  constructor
  · intro equal f mem
    match equal, mem with
    | .cons found first _, .head _ => exact ⟨_, found, first⟩
    | .cons _ _ rest, .tail _ mem => exact fieldsEqual_iff.mp rest f mem
  · intro each
    match fs with
    | [] => exact .nil gs
    | (name, v) :: fs =>
        obtain ⟨w, found, first⟩ := each _ List.mem_cons_self
        exact .cons found first
          (fieldsEqual_iff.mpr fun f mem => each f (List.mem_cons_of_mem _ mem))

end Value
end RecordFlow
