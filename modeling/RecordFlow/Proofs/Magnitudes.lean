/-
# Magnitudes — where two numbers are equal

The place of a finite number on the line, whole number or not, is a rational
number that its magnitude tells.  So a floating-point number that is equal to a
whole number is that whole number, and two equal ones are the same, but for the
two zeros.
-/
import Mathlib.Algebra.Order.Field.Rat
import Mathlib.Tactic.FieldSimp
import Mathlib.Tactic.Ring
import RecordFlow.Number.Magnitude
import RecordFlow.Proofs.Exactness

namespace RecordFlow

namespace Magnitude

/-- The rational number that a finite magnitude tells. -/
def value? : Magnitude → Option ℚ
  | finite c e => some (c * 10 ^ e)
  | infinite _ => none

/-- The zeros that are taken off the coefficient are counted in the exponent. -/
theorem trimmed_value (c : Nat) (e : Int) :
    ((trimmed c e).1 : ℚ) * 10 ^ (trimmed c e).2 = c * 10 ^ e := by
  fun_induction trimmed c e with
  | case1 => simp
  | case2 c e filled tens ih =>
      have whole : c = 10 * (c / 10) := by omega
      have rest : (c : ℚ) = 10 * (c / 10 : Nat) := by exact_mod_cast whole
      rw [ih, rest, zpow_add_one₀ (by norm_num : (10 : ℚ) ≠ 0)]
      ring
  | case3 => rfl

theorem value?_ofScaled (negative : Bool) (c : Nat) (e : Int) :
    (ofScaled negative c e).value? = some ((Binary64.signed negative c : ℚ) * 10 ^ e) := by
  have place := trimmed_value c e
  cases negative with
  | false => simp [ofScaled, value?, Binary64.signed, place]
  | true => simp [ofScaled, value?, Binary64.signed, place]

theorem value?_ofInt (n : Int) : (ofInt n).value? = some (n : ℚ) := by
  have whole : Binary64.signed (n < 0) n.natAbs = n := by
    unfold Binary64.signed
    split <;> rename_i sign <;> simp at sign <;> omega
  rw [ofInt, value?_ofScaled, whole, zpow_zero, mul_one]

theorem ofInt_injective {m n : Int} (same : ofInt m = ofInt n) : m = n := by
  have place := congrArg value? same
  rw [value?_ofInt, value?_ofInt, Option.some.injEq] at place
  exact_mod_cast place

end Magnitude

namespace Binary64

theorem signed_mul (negative : Bool) (a b : Nat) :
    signed negative (a * b) = signed negative a * b := by
  cases negative <;> simp [signed]

/-- A unit is a power of five over the same power of ten. -/
theorem unit_in_tens (k : Nat) : (5 : ℚ) ^ k * 10 ^ (-(k : Int)) = 1 / 2 ^ k := by
  rw [zpow_neg, zpow_natCast, show (10 : ℚ) = 2 * 5 by norm_num, mul_pow]
  field_simp

theorem exists_unit_exponent :
    ∃ k : Nat, (k : Int) = 1074 ∧ one = 2 ^ k ∧ Nat.pow 5 1074 = 5 ^ k := by
  unfold one
  generalize exponent : 1074 = k
  exact ⟨k, by omega, Nat.pow_eq, Nat.pow_eq⟩

theorem one_ne_zero : (one : ℚ) ≠ 0 := by
  exact_mod_cast one_pos.ne'

/-- The place of a finite number is its count of units over the units of one. -/
theorem value?_finite (negative : Bool) (units : Nat) :
    (Magnitude.ofBinary64? (.finite negative units)).bind Magnitude.value?
      = some ((signed negative units : ℚ) / one) := by
  rw [Magnitude.ofBinary64?]
  split
  · rename_i whole
    have parts : units / one * one = units := Nat.div_mul_cancel (Nat.dvd_of_mod_eq_zero whole)
    have sign := signed_mul negative (units / one) one
    rw [parts] at sign
    rw [Option.bind_some, Magnitude.value?_ofScaled, zpow_zero, mul_one, sign]
    push_cast
    rw [mul_div_cancel_right₀ _ one_ne_zero]
  · obtain ⟨k, tens, unit, fives⟩ := exists_unit_exponent
    rw [Option.bind_some, Magnitude.value?_ofScaled, fives, ← tens, unit, signed_mul]
    push_cast
    rw [mul_assoc, unit_in_tens, mul_one_div]

/-- A number in a place that a rational number tells is finite. -/
theorem finite_of_place {x : Binary64} {m : Magnitude} {q : ℚ}
    (told : Magnitude.ofBinary64? x = some m) (value : m.value? = some q) :
    ∃ s u, x = .finite s u ∧ (signed s u : ℚ) / one = q := by
  cases x with
  | nan => cases told
  | infinite negative =>
      obtain rfl := Option.some.inj told
      cases value
  | finite s u =>
      have place := value?_finite s u
      rw [told, Option.bind_some, value] at place
      exact ⟨s, u, rfl, (Option.some.inj place).symm⟩

theorem infinite_of_place {x : Binary64} {negative : Bool}
    (told : Magnitude.ofBinary64? x = some (.infinite negative)) : x = .infinite negative := by
  cases x with
  | nan => cases told
  | infinite sign =>
      exact congrArg Binary64.infinite (Magnitude.infinite.inj (Option.some.inj told))
  | finite s u =>
      have place := value?_finite s u
      rw [told] at place
      cases place

/-- A floating-point number equal to a whole number is that whole number. -/
theorem toInt?_of_equal {x : Binary64} {n : Int}
    (told : Magnitude.ofBinary64? x = some (.ofInt n)) : x.toInt? = some n := by
  obtain ⟨s, u, rfl, place⟩ := finite_of_place told (Magnitude.value?_ofInt n)
  have count : signed s u = n * one := by
    rw [div_eq_iff one_ne_zero] at place
    exact_mod_cast place
  have whole : u % one = 0 := by
    refine Nat.mod_eq_zero_of_dvd (Int.natCast_dvd_natCast.mp ?_)
    have divides : (one : Int) ∣ signed s u := ⟨n, by rw [count, mul_comm]⟩
    cases s with
    | false => exact divides
    | true => exact (Int.dvd_neg).mp divides
  have parts := signed_mul s (u / one) one
  rw [Nat.div_mul_cancel (Nat.dvd_of_mod_eq_zero whole), count] at parts
  have positive : (one : Int) ≠ 0 := by exact_mod_cast one_ne_zero
  rw [toInt?, if_pos whole, Int.eq_of_mul_eq_mul_right positive parts]

/-- Two floating-point numbers are equal only if they are the same or two zeros. -/
theorem eq_of_equal {x y : Binary64} {m : Magnitude} (left : Magnitude.ofBinary64? x = some m)
    (right : Magnitude.ofBinary64? y = some m) :
    x = y ∨ ∃ s t, x = .finite s 0 ∧ y = .finite t 0 := by
  cases m with
  | infinite negative =>
      exact .inl ((infinite_of_place left).trans (infinite_of_place right).symm)
  | finite c e =>
      obtain ⟨s, u, rfl, first⟩ := finite_of_place left rfl
      obtain ⟨t, v, rfl, second⟩ := finite_of_place right rfl
      have count : signed s u = signed t v := by
        have place := first.trans second.symm
        rw [div_left_inj' one_ne_zero] at place
        exact_mod_cast place
      cases s <;> cases t <;> simp [signed] at count ⊢ <;> omega

end Binary64
end RecordFlow
