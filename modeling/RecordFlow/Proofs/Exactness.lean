/-
# Exactness — floating-point numbers that are not rounded, and how far they reach

A number of at most 53 bits, with any zeros behind it, is a floating-point
number as it stands.  So a whole number below 2^53 is the same in floating point.
What is rounded goes up to a power of two only from within half a unit of the
last place below it; so it is known which whole numbers are too large for the
format.
-/
import Mathlib.Algebra.Group.Int.Defs
import Mathlib.Algebra.Group.Nat.Defs
import RecordFlow.Store.Relational

namespace RecordFlow

namespace Binary64

/-- A number of at most 53 bits with zeros behind it is rounded to itself. -/
theorem roundUnits_short {c e : Nat} (short : c < 2 ^ 53) :
    roundUnits (c * 2 ^ e) 1 = c * 2 ^ e := by
  have divides : 2 ^ lostBits 53 (c * 2 ^ e) 1 ∣ c * 2 ^ e := by
    rcases Nat.eq_zero_or_pos c with rfl | positive
    · simp
    · have bits : (c * 2 ^ e).log2 < 53 + e := by
        rw [Nat.log2_lt (Nat.ne_of_gt (Nat.mul_pos positive (Nat.two_pow_pos e))), Nat.pow_add]
        exact Nat.mul_lt_mul_of_pos_right short (Nat.two_pow_pos e)
      refine Nat.dvd_mul_left_of_dvd (Nat.pow_dvd_pow 2 ?_) c
      simp only [lostBits, Nat.div_one]
      omega
  have exact : c * 2 ^ e % 2 ^ lostBits 53 (c * 2 ^ e) 1 = 0 := Nat.mod_eq_zero_of_dvd divides
  simp only [roundUnits, roundBits, divEven, Nat.one_mul, Nat.pow_eq, exact, Nat.mul_zero,
    Nat.two_pow_pos, if_true]
  exact Nat.div_mul_cancel divides

/-- The numbers reach beyond 53 bits of ones. -/
theorem exists_exponents : ∃ e k, one = 2 ^ e ∧ limit = 2 ^ k ∧ 53 + e ≤ k := by
  unfold one limit
  generalize he : 1074 = e
  generalize hk : 2098 = k
  exact ⟨e, k, Nat.pow_eq, Nat.pow_eq, by omega⟩

theorem one_pos : 0 < one := by
  obtain ⟨e, k, units, -⟩ := exists_exponents
  exact units ▸ Nat.two_pow_pos e

/-- A whole number of at most 53 bits is not rounded. -/
theorem ofRatio_whole (negative : Bool) {n : Nat} (short : n < 2 ^ 53) :
    ofRatio negative n 1 = finite negative (n * one) := by
  obtain ⟨e, k, units, bound, wide⟩ := exists_exponents
  have below : n * one < limit :=
    calc n * one < 2 ^ 53 * one := Nat.mul_lt_mul_of_pos_right short one_pos
      _ = 2 ^ (53 + e) := by rw [units, Nat.pow_add]
      _ ≤ limit := bound ▸ Nat.pow_le_pow_right Nat.two_pos wide
  have exact : roundUnits (n * one) 1 = n * one := by rw [units, roundUnits_short short]
  simp only [ofRatio, exact, ofUnits, below, if_true]

variable {x : Binary64} {n : Int}

/-- A number is whole when it is a multiple of one. -/
theorem toInt?_eq_some_iff :
    x.toInt? = some n ↔ ∃ negative c, x = finite negative (c * one) ∧ signed negative c = n := by
  constructor
  · intro whole
    cases x with
    | finite negative units =>
        rw [toInt?] at whole
        split at whole
        · rename_i divides
          refine ⟨negative, units / one, ?_, Option.some.inj whole⟩
          rw [Nat.div_mul_cancel (Nat.dvd_of_mod_eq_zero divides)]
        · cases whole
    | infinite => cases whole
    | nan => cases whole
  · rintro ⟨negative, c, rfl, rfl⟩
    rw [toInt?, if_pos (Nat.mul_mod_left c one), Nat.mul_div_cancel c one_pos]

theorem signed_natAbs (n : Int) : signed (n < 0) n.natAbs = n := by
  unfold signed
  by_cases negative : n < 0
  · rw [decide_eq_true negative, if_pos rfl]
    omega
  · rw [decide_eq_false negative]
    show (n.natAbs : Int) = n
    omega

theorem natAbs_signed (negative : Bool) (c : Nat) : (signed negative c).natAbs = c := by
  cases negative with
  | true => exact Int.natAbs_neg c
  | false => rfl

/-- A whole number of at most 53 bits is the same in floating point. -/
theorem exists_ofInt? (short : n.natAbs < 2 ^ 53) : ∃ x, ofInt? n = some x ∧ x.toInt? = some n := by
  rw [ofInt?, ofRatio_whole _ short]
  by_cases zero : n = 0
  · subst zero
    refine ⟨finite false 0, by rw [Int.natAbs_zero, Nat.zero_mul]; rfl, ?_⟩
    exact toInt?_eq_some_iff.mpr ⟨false, 0, by rw [Nat.zero_mul], rfl⟩
  · obtain ⟨u, units⟩ := Nat.exists_eq_succ_of_ne_zero
      (Nat.mul_ne_zero (Int.natAbs_ne_zero.mpr zero) (Nat.ne_of_gt one_pos))
    refine ⟨finite (n < 0) (n.natAbs * one), by rw [units]; rfl, ?_⟩
    exact toInt?_eq_some_iff.mpr ⟨_, _, rfl, signed_natAbs n⟩

/-! ## How far the numbers reach -/

theorem div_le_divEven (num den : Nat) : num / den ≤ divEven num den := by
  unfold divEven
  simp only
  split
  · exact Nat.le_refl _
  · split <;> omega

theorem divEven_le (num den : Nat) : divEven num den ≤ num / den + 1 := by
  unfold divEven
  simp only
  split
  · exact Nat.le_succ _
  · split <;> omega

/-- Of the quotients below an even one, only those come out as it that are within half of a unit
of it. -/
theorem divEven_lt_iff {num half top : Nat} (some : 0 < half) (below : num < 2 * top * (2 * half)) :
    divEven num (2 * half) < 2 * top ↔ num + half < 2 * top * (2 * half) := by
  have whole := Nat.div_add_mod num (2 * half)
  have short := Nat.mod_lt num (Nat.mul_pos Nat.two_pos some)
  have inside : num / (2 * half) < 2 * top := Nat.div_lt_of_lt_mul (Nat.mul_comm _ _ ▸ below)
  have atMost := divEven_le num (2 * half)
  by_cases last : num / (2 * half) + 1 = 2 * top
  · have room : 2 * top * (2 * half) = 2 * half * (num / (2 * half)) + 2 * half := by
      rw [← last, Nat.add_one_mul, Nat.mul_comm]
    unfold divEven
    simp only
    split
    · omega
    · split <;> omega
  · have room : 2 * half * (num / (2 * half)) + 2 * (2 * half) ≤ 2 * top * (2 * half) :=
      calc 2 * half * (num / (2 * half)) + 2 * (2 * half)
          = (num / (2 * half) + 2) * (2 * half) := by rw [Nat.add_mul, Nat.mul_comm (2 * half)]
        _ ≤ 2 * top * (2 * half) := Nat.mul_le_mul_right _ (by omega)
    omega

theorem roundBits_one (bits num : Nat) :
    roundBits bits num 1
      = divEven num (2 ^ (num.log2 + 1 - bits)) * 2 ^ (num.log2 + 1 - bits) := by
  simp only [roundBits, lostBits, Nat.div_one, Nat.one_mul, Nat.pow_eq]

/-- Rounding does not go beyond the next power of two. -/
theorem roundBits_le (bits num : Nat) : roundBits bits num 1 ≤ 2 ^ (num.log2 + 1) := by
  have split : 2 ^ (num.log2 + 1)
      = 2 ^ (num.log2 + 1 - (num.log2 + 1 - bits)) * 2 ^ (num.log2 + 1 - bits) := by
    rw [← Nat.pow_add, Nat.sub_add_cancel (Nat.sub_le _ _)]
  have below : num / 2 ^ (num.log2 + 1 - bits) < 2 ^ (num.log2 + 1 - (num.log2 + 1 - bits)) :=
    Nat.div_lt_of_lt_mul (by rw [Nat.mul_comm, ← split]; exact Nat.lt_log2_self)
  rw [roundBits_one, split]
  exact Nat.mul_le_mul_right _ (Nat.le_trans (divEven_le _ _) below)

/-- Rounding does not go below a power of two that is not above. -/
theorem le_roundBits {bits num : Nat} (some : 0 < bits) (positive : num ≠ 0) :
    2 ^ num.log2 ≤ roundBits bits num 1 := by
  have split : 2 ^ num.log2
      = 2 ^ (num.log2 - (num.log2 + 1 - bits)) * 2 ^ (num.log2 + 1 - bits) := by
    rw [← Nat.pow_add, Nat.sub_add_cancel (by omega)]
  have above : 2 ^ (num.log2 - (num.log2 + 1 - bits)) ≤ num / 2 ^ (num.log2 + 1 - bits) := by
    rw [Nat.le_div_iff_mul_le (Nat.two_pow_pos _), ← split]
    exact Nat.log2_self_le positive
  rw [roundBits_one, split]
  exact Nat.mul_le_mul_right _ (Nat.le_trans above (div_le_divEven _ _))

/-- What is rounded up to a power of two is within half a unit of the last place of it. -/
theorem roundBits_lt_two_pow {bits k num : Nat} (some : 0 < bits) (wide : bits < k) :
    roundBits bits num 1 < 2 ^ k ↔ num + 2 ^ (k - bits - 1) < 2 ^ k := by
  have low := Nat.lt_log2_self (n := num)
  rcases Nat.lt_trichotomy (num.log2 + 1) k with small | here | large
  · have half := Nat.two_pow_pred_mul_two (w := k) (by omega)
    have first : 2 ^ (num.log2 + 1) ≤ 2 ^ (k - 1) := Nat.pow_le_pow_right Nat.two_pos (by omega)
    have second : 2 ^ (k - bits - 1) ≤ 2 ^ (k - 1) := Nat.pow_le_pow_right Nat.two_pos (by omega)
    have rounded := roundBits_le bits num
    have positive := Nat.two_pow_pos (k - 1)
    omega
  · obtain ⟨b, rfl⟩ := Nat.exists_eq_add_of_lt some
    have unit : 2 ^ (k - (0 + b + 1)) = 2 * 2 ^ (k - (0 + b + 1) - 1) := by
      rw [Nat.mul_comm, Nat.two_pow_pred_mul_two (by omega)]
    have all : 2 ^ k = 2 * 2 ^ b * (2 * 2 ^ (k - (0 + b + 1) - 1)) := by
      rw [← unit, ← Nat.pow_succ', ← Nat.pow_add]
      congr 1
      omega
    rw [here] at low
    rw [roundBits_one, here, all, unit, Nat.mul_lt_mul_right (Nat.mul_pos Nat.two_pos
      (Nat.two_pow_pos _))]
    exact divEven_lt_iff (Nat.two_pow_pos _) (all ▸ low)
  · have positive : num ≠ 0 := by
      rintro rfl
      rw [Nat.log2_zero] at large
      omega
    have high := Nat.log2_self_le positive
    have rounded := le_roundBits some positive
    have above : 2 ^ k ≤ 2 ^ num.log2 := Nat.pow_le_pow_right Nat.two_pos (by omega)
    have half := Nat.two_pow_pos (k - bits - 1)
    omega

theorem roundUnits_lt_iff {n e places : Nat} (wide : 54 ≤ places) :
    roundUnits (n * 2 ^ e) 1 < 2 ^ (e + places) ↔ n + 2 ^ (places - 54) < 2 ^ places := by
  have half : e + places - 53 - 1 = e + (places - 54) := by omega
  rw [roundUnits, roundBits_lt_two_pow (by omega) (by omega), half, Nat.pow_add, Nat.pow_add,
    Nat.mul_comm (2 ^ e), Nat.mul_comm (2 ^ e), ← Nat.add_mul,
    Nat.mul_lt_mul_right (Nat.two_pow_pos e)]

theorem exists_units : ∃ e, one = 2 ^ e ∧ limit = 2 ^ (e + 1024) := by
  unfold one limit
  generalize he : 1074 = e
  have hk : 2098 = e + 1024 := by omega
  rw [hk]
  exact ⟨e, Nat.pow_eq, Nat.pow_eq⟩

theorem finite?_finite (negative : Bool) (units : Nat) :
    finite? (finite negative units) ≠ none := by
  cases units <;> nofun

/-- A whole number stays finite unless it is rounded up to the power of two at which the finite
numbers end. -/
theorem roundUnits_lt_limit_iff {c : Nat} :
    roundUnits (c * one) 1 < limit ↔ c < 2 ^ 1024 - 2 ^ 970 := by
  obtain ⟨e, units, bound⟩ := exists_units
  rw [units, bound, roundUnits_lt_iff (by decide), Nat.lt_sub_iff_add_lt]

theorem ofInt?_eq_none_iff {n : Int} : ofInt? n = none ↔ 2 ^ 1024 - 2 ^ 970 ≤ n.natAbs := by
  have inside := roundUnits_lt_limit_iff (c := n.natAbs)
  rw [← Nat.not_lt, ofInt?, ofRatio, ofUnits]
  by_cases below : roundUnits (n.natAbs * one) 1 < limit
  · exact iff_of_false (by rw [if_pos below]; exact finite?_finite _ _)
      (not_not_intro (inside.mp below))
  · exact iff_of_true (by rw [if_neg below]; rfl) (mt inside.mpr below)

end Binary64

theorem RelationalStore.inFloatingPoint_short {n : Int} (nonneg : 0 ≤ n) (short : n < 2 ^ 53) :
    inFloatingPoint n = n := by
  obtain ⟨x, form, whole⟩ := Binary64.exists_ofInt? (n := n) (by omega)
  rw [inFloatingPoint, form, Option.bind_some, whole]
  rfl

end RecordFlow
