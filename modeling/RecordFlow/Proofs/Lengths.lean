/-
# Lengths — which values have a text

A whole number is written out while it has few enough digits.  A value that
holds a longer one, by itself or at any depth, has none of the texts: it is
refused wherever one of them is asked for, for the same reason everywhere.  Any
other value has them all.
-/
import Mathlib.Algebra.Group.Int.Defs
import Mathlib.Algebra.Group.Nat.Defs
import RecordFlow.Value.Text

namespace RecordFlow

namespace Value

/-- A value holds, by itself or at any depth, a whole number that is too long to be written
out. -/
inductive HoldsLong : Value → Prop
  | int {n : Int} (long : 10 ^ mostDigits ≤ n.natAbs) : HoldsLong (.int n)
  | item {xs : List Value} {x : Value} (mem : x ∈ xs) (long : HoldsLong x) : HoldsLong (.list xs)
  | part {xs : List Value} {x : Value} (mem : x ∈ xs) (long : HoldsLong x) : HoldsLong (.tuple xs)
  | field {fs : Fields} {f : String × Value} (mem : f ∈ fs) (long : HoldsLong f.2) :
      HoldsLong (.record fs)

theorem isShort_iff {n : Int} : isShort n = true ↔ n.natAbs < 10 ^ mostDigits := by
  rw [isShort, decide_eq_true_iff]
  exact Nat.length_toDigits_le_iff (by decide) (by decide)

/-- What holds a number that is too long cannot be written. -/
theorem HoldsLong.unwritable {v : Value} (long : v.HoldsLong) : v.isWritable ≠ true := by
  induction long with
  | int long =>
      rw [isWritable, Ne, isShort_iff]
      exact Nat.not_lt.mpr long
  | item mem _ ih | part mem _ ih =>
      rw [isWritable, Ne, areWritable_iff]
      exact fun all => ih (all _ mem)
  | field mem _ ih =>
      rw [isWritable, Ne, fieldsWritable_iff]
      exact fun all => ih (all _ mem)

mutual

theorem writable_or_long (v : Value) : v.isWritable = true ∨ v.HoldsLong := by
  cases v with
  | int n =>
      rw [isWritable, isShort_iff]
      exact (Nat.lt_or_ge _ _).imp_right .int
  | list xs => exact (writable_or_long_items xs).imp_right fun ⟨_, mem, long⟩ => .item mem long
  | tuple xs => exact (writable_or_long_items xs).imp_right fun ⟨_, mem, long⟩ => .part mem long
  | record fs => exact (writable_or_long_fields fs).imp_right fun ⟨_, mem, long⟩ => .field mem long
  | _ => exact .inl rfl

theorem writable_or_long_items (xs : List Value) :
    areWritable xs = true ∨ ∃ x ∈ xs, x.HoldsLong := by
  cases xs with
  | nil => exact .inl rfl
  | cons x xs =>
      simp only [areWritable, Bool.and_eq_true, List.mem_cons, exists_eq_or_imp]
      rcases writable_or_long x with first | long
      · exact (writable_or_long_items xs).imp (⟨first, ·⟩) .inr
      · exact .inr (.inl long)

theorem writable_or_long_fields (fs : List (String × Value)) :
    fieldsWritable fs = true ∨ ∃ f ∈ fs, HoldsLong f.2 := by
  cases fs with
  | nil => exact .inl rfl
  | cons f fs =>
      obtain ⟨name, v⟩ := f
      simp only [fieldsWritable, Bool.and_eq_true, List.mem_cons, exists_eq_or_imp]
      rcases writable_or_long v with first | long
      · exact (writable_or_long_fields fs).imp (⟨first, ·⟩) .inr
      · exact .inr (.inl long)

end

theorem isWritable_iff {v : Value} : v.isWritable = true ↔ ¬ v.HoldsLong :=
  ⟨fun writable long => long.unwritable writable, (writable_or_long v).resolve_right⟩

theorem not_holdsLong_text (s : String) : ¬ (text s).HoldsLong := nofun

/-- What counts as nothing holds no number. -/
theorem not_holdsLong_of_isBlank {v : Value} (blank : v.isBlank = true) : ¬ v.HoldsLong := by
  cases v with
  | null => exact nofun
  | text s => exact not_holdsLong_text s
  | _ => cases blank

/-- The least whole number that is too long to be written out. -/
def leastLong : Value := int (10 ^ mostDigits)

theorem holdsLong_leastLong : leastLong.HoldsLong := .int (by simp [Int.natAbs_pow])

/-! ## The texts -/

section

variable {v : Value} {text s : String}

theorem written_of_short (short : ¬ v.HoldsLong) : v.written text = .ok text :=
  if_pos (isWritable_iff.mpr short)

theorem written_of_long (long : v.HoldsLong) : v.written text = .error .tooManyDigits :=
  if_neg long.unwritable

theorem written_eq_error_iff {f : Failure} :
    v.written text = .error f ↔ f = .tooManyDigits ∧ v.HoldsLong := by
  rcases Classical.em v.HoldsLong with long | short
  · rw [written_of_long long, Except.error.injEq, and_iff_left long]
    exact eq_comm
  · rw [written_of_short short]
    exact iff_of_false nofun fun h => short h.2

end

end Value
end RecordFlow
