/-
# Whole numbers — integers and their texts in floating point, and the order of the two

An integer comes to floating point from itself or from a text that writes it, by
two ways that round to the same number.  Where the integer has more digits than
the format, the number is not equal to it; but rounding keeps the order, so of
two integers the operators never take the smaller for the greater:
`whole_numbers_ordered`.
-/
import Mathlib.Data.Nat.Digits.Defs
import RecordFlow.Proofs.Numerals
import RecordFlow.Proofs.Verdict

namespace RecordFlow

/-! ## Rounding keeps the order -/

namespace Binary64

theorem divEven_mono {m n : Nat} (den : Nat) (order : m ≤ n) : divEven m den ≤ divEven n den := by
  rcases Nat.lt_or_eq_of_le (Nat.div_le_div_right (c := den) order) with apart | level
  · exact Nat.le_trans (divEven_le m den) (Nat.le_trans apart (div_le_divEven n den))
  · -- of two remainders over one quotient the greater is the last to be rounded down
    have rests : m % den ≤ n % den := by
      have first := Nat.div_add_mod m den
      have second := Nat.div_add_mod n den
      rw [level] at first
      omega
    unfold divEven
    rw [level]
    simp only
    split_ifs <;> omega

theorem log2_mono {m n : Nat} (order : m ≤ n) : m.log2 ≤ n.log2 := by
  rcases Nat.eq_zero_or_pos m with rfl | positive
  · rw [Nat.log2_zero]
    exact Nat.zero_le _
  · rw [Nat.le_log2 (by omega)]
    exact Nat.le_trans (Nat.log2_self_le (by omega)) order

/-- Rounding to so many bits keeps the order: below a power of two the numbers have the same
last place, and the power itself is not crossed. -/
theorem roundBits_mono {bits m n : Nat} (some : 0 < bits) (order : m ≤ n) :
    roundBits bits m 1 ≤ roundBits bits n 1 := by
  rcases Nat.lt_or_eq_of_le (log2_mono order) with apart | level
  · have positive : n ≠ 0 := by
      rintro rfl
      rw [Nat.log2_zero] at apart
      omega
    calc roundBits bits m 1 ≤ 2 ^ (m.log2 + 1) := roundBits_le bits m
      _ ≤ 2 ^ n.log2 := Nat.pow_le_pow_right Nat.two_pos apart
      _ ≤ roundBits bits n 1 := le_roundBits some positive
  · rw [roundBits_one, roundBits_one, level]
    exact Nat.mul_le_mul_right _ (divEven_mono _ order)

theorem roundUnits_zero : roundUnits 0 1 = 0 := by
  simp [roundUnits, roundBits_one, divEven]

/-- The signed count of units of the number nearest to an integer. -/
def nearestUnits (n : Int) : Int := signed (n < 0) (roundUnits (n.natAbs * one) 1)

variable {negative : Bool} {c : Nat} {n : Int} {x y : Binary64}

theorem signed_false (c : Nat) : signed false c = c := rfl

theorem signed_true (c : Nat) : signed true c = -(c : Int) := rfl

theorem nearestUnits_of_neg (h : n < 0) :
    nearestUnits n = -(roundUnits (n.natAbs * one) 1 : Int) := by
  rw [nearestUnits, decide_eq_true h, signed, if_pos rfl]

theorem nearestUnits_of_nonneg (h : 0 ≤ n) :
    nearestUnits n = roundUnits (n.natAbs * one) 1 := by
  rw [nearestUnits, decide_eq_false (by omega), signed, if_neg Bool.false_ne_true]

/-- The nearest numbers are in the order of the integers. -/
theorem nearestUnits_mono {a b : Int} (order : a ≤ b) : nearestUnits a ≤ nearestUnits b := by
  have kept {m n : Nat} (h : m ≤ n) : roundUnits (m * one) 1 ≤ roundUnits (n * one) 1 :=
    roundBits_mono (by decide) (Nat.mul_le_mul_right one h)
  rcases Int.lt_or_le a 0 with left | left <;> rcases Int.lt_or_le b 0 with right | right
  · have := kept (m := b.natAbs) (n := a.natAbs) (by omega)
    rw [nearestUnits_of_neg left, nearestUnits_of_neg right]
    omega
  · rw [nearestUnits_of_neg left, nearestUnits_of_nonneg right]
    omega
  · omega
  · have := kept (m := a.natAbs) (n := b.natAbs) (by omega)
    rw [nearestUnits_of_nonneg left, nearestUnits_of_nonneg right]
    omega

/-- A sign and a count that make an integer are rounded as the integer is. -/
theorem signed_roundUnits (negative : Bool) (c : Nat) :
    signed negative (roundUnits (c * one) 1) = nearestUnits (signed negative c) := by
  cases negative with
  | false =>
      have above : 0 ≤ signed false c := Int.natCast_nonneg c
      rw [nearestUnits_of_nonneg above, natAbs_signed, signed_false]
  | true =>
      rcases Nat.eq_zero_or_pos c with rfl | positive
      · simp [nearestUnits, signed, roundUnits_zero]
      · have below : signed true c < 0 := by
          rw [signed_true]
          omega
        rw [nearestUnits_of_neg below, natAbs_signed, signed_true]

/-- A finite number that an integer is rounded to. -/
inductive IsNearest (n : Int) : Binary64 → Prop
  | finite {negative : Bool} {units : Nat} : signed negative units = nearestUnits n →
      IsNearest n (.finite negative units)

theorem ofRatio_inRange (inRange : c < 2 ^ 1024 - 2 ^ 970) :
    ofRatio negative c 1 = .finite negative (roundUnits (c * one) 1) := by
  rw [ofRatio, ofUnits, if_pos (roundUnits_lt_limit_iff.mpr inRange)]

/-- A zero loses its sign, and nothing else changes. -/
theorem exists_finite? (negative : Bool) (units : Nat) :
    ∃ s, finite? (.finite negative units) = some (.finite s units) ∧
      signed s units = signed negative units := by
  cases units with
  | zero => exact ⟨false, rfl, by cases negative <;> rfl⟩
  | succ units => exact ⟨negative, rfl, rfl⟩

/-- Integers in their order are rounded to numbers in that order. -/
theorem IsNearest.le {a b : Int} (order : a ≤ b) (left : x.IsNearest a) (right : y.IsNearest b) :
    x.le y = true := by
  obtain ⟨left⟩ := left
  obtain ⟨right⟩ := right
  rw [le, left, right]
  exact decide_eq_true (nearestUnits_mono order)

theorem IsNearest.ne_nan (h : x.IsNearest n) : x ≠ .nan := by
  cases h
  exact nofun

theorem exists_ofInt?_isNearest (inRange : n.natAbs < 2 ^ 1024 - 2 ^ 970) :
    ∃ x, ofInt? n = some x ∧ IsNearest n x := by
  rw [ofInt?, ofRatio_inRange inRange]
  obtain ⟨s, form, units⟩ := exists_finite? (n < 0) (roundUnits (n.natAbs * one) 1)
  exact ⟨_, form, .finite units⟩

end Binary64

/-! ## Whole numbers as texts -/

namespace Text

variable {c : Char} {d : Nat}

theorem exists_zeroDigit (digit : digitValue? c = some d) :
    ∃ z ∈ zeroDigits, z ≤ c.toNat ∧ c.toNat < z + 10 := by
  obtain ⟨z, found, -⟩ := Option.map_eq_some_iff.mp digit
  exact ⟨z, List.mem_of_find?_eq_some found, by simpa using List.find?_some found⟩

/-- No digit of any script is white space. -/
theorem isBlank_of_digit (digit : digitValue? c = some d) : isBlank c = false := by
  have apart : ∀ z ∈ zeroDigits, ∀ r ∈ blankRanges, z + 9 < r.1 ∨ r.2 < z := by decide
  obtain ⟨z, script, low, high⟩ := exists_zeroDigit digit
  rw [Bool.eq_false_iff]
  intro blank
  obtain ⟨r, range, first, last⟩ := inRanges_iff.mp blank
  have := apart z script r range
  omega

theorem isMargin_of_not_blank (full : isBlank c = false) : isMargin c = false := by
  rw [isMargin, full, Bool.false_and]

/-- No digit of any script is a capital letter. -/
theorem toLower_of_digit (digit : digitValue? c = some d) : c.toLower = c := by
  have apart : ∀ z ∈ zeroDigits, z + 9 < 65 ∨ 90 < z := by decide
  obtain ⟨z, script, low, high⟩ := exists_zeroDigit digit
  have := apart z script
  unfold Char.toLower
  rw [dif_neg]
  rintro ⟨first, last⟩
  have first : 65 ≤ c.toNat := first
  have last : c.toNat ≤ 90 := last
  omega

end Text

namespace Numeral

variable {cs rest : List Char} {d : Nat} {ds : List Nat}

theorem takeDigits_begins (taken : takeDigits cs = (d :: ds, rest)) :
    ∃ c more, cs = c :: more ∧ Text.digitValue? c = some d := by
  cases cs with
  | nil =>
      rw [takeDigits] at taken
      cases taken
  | cons c more =>
      refine ⟨c, more, rfl, ?_⟩
      cases value : Text.digitValue? c with
      | none =>
          rw [takeDigits, value] at taken
          cases taken
      | some e =>
          rw [takeDigits, value] at taken
          dsimp only at taken
          split at taken
          · split at taken
            · cases taken
              rfl
            · cases taken
              rfl
          · cases taken
            rfl

/-- Where digits are all that there is, there is no white space. -/
theorem isBlank_of_takeDigits (taken : takeDigits cs = (ds, [])) {c : Char} (mem : c ∈ cs) :
    Text.isBlank c = false := by
  fun_induction takeDigits cs generalizing ds with
  | case1 => cases mem
  | case2 => cases taken
  | case3 first d digit next more value _ ds' rest' _ ih =>
      obtain rfl := (Prod.mk.inj taken).2
      rcases List.mem_cons.mp mem with rfl | mem
      · exact Text.isBlank_of_digit digit
      · rcases List.mem_cons.mp mem with rfl | mem
        · rfl
        · exact ih ‹_› mem
  | case4 => cases taken
  | case5 first d digit rest _ ds' rest' _ ih =>
      obtain rfl := (Prod.mk.inj taken).2
      rcases List.mem_cons.mp mem with rfl | mem
      · exact Text.isBlank_of_digit digit
      · exact ih ‹_› mem

theorem mem_of_takeSign {c : Char} (mem : c ∈ cs) :
    c = '-' ∨ c = '+' ∨ c ∈ (takeSign cs).2 := by
  unfold takeSign
  split
  · exact (List.mem_cons.mp mem).imp id .inr
  · exact .inr (List.mem_cons.mp mem)
  · exact .inr (.inr mem)

/-- What begins with a digit of any script is no name of an infinity or of a NaN. -/
theorem folded_ne {c : Char} (digit : Text.digitValue? c = some d) (cs : List Char)
    (word : String) (letter : word.toList.head? ∈ [some 'i', some 'n']) :
    folded (c :: cs) ≠ word := by
  rintro rfl
  rw [folded, String.toList_ofList, List.map_cons, List.head?_cons,
    Text.toLower_of_digit digit] at letter
  simp only [List.mem_cons, Option.some.injEq, List.not_mem_nil, or_false] at letter
  rcases letter with rfl | rfl
  · rw [show Text.digitValue? 'i' = none by decide] at digit
    cases digit
  · rw [show Text.digitValue? 'n' = none by decide] at digit
    cases digit

/-- Digits are a numeral without places. -/
theorem unsigned?_digits (taken : takeDigits cs = (d :: ds, [])) :
    unsigned? cs = some (ofDigits (d :: ds), 0) := by
  rw [unsigned?, taken]
  simp

/-- A text that writes a whole number is a sign and digits. -/
theorem exists_of_toInt? {s : String} {n : Int} (writes : toInt? s = some n) :
    ∃ negative body d ds, takeSign s.toList = (negative, body) ∧
      takeDigits body = (d :: ds, []) ∧ Binary64.signed negative (ofDigits (d :: ds)) = n := by
  rw [toInt?] at writes
  rcases sign : takeSign s.toList with ⟨negative, body⟩
  rcases taken : takeDigits body with ⟨_ | ⟨d, ds⟩, _ | ⟨c, rest⟩⟩ <;>
    simp only [sign, taken] at writes
  case nil.nil => cases writes
  case nil.cons => cases writes
  case cons.cons => cases writes
  case cons.nil => exact ⟨negative, body, d, ds, rfl, taken, Option.some.inj writes⟩

/-- Nothing of a text that writes a whole number is white space. -/
theorem isBlank_of_toInt? {s : String} {n : Int} (writes : toInt? s = some n) {c : Char}
    (mem : c ∈ s.toList) : Text.isBlank c = false := by
  obtain ⟨negative, body, d, ds, sign, taken, -⟩ := exists_of_toInt? writes
  rcases mem_of_takeSign mem with rfl | rfl | mem
  · rfl
  · rfl
  · rw [sign] at mem
    exact isBlank_of_takeDigits taken mem

/-- A text that writes a whole number is read in floating point as the number nearest to it. -/
theorem toBinary64?_of_toInt? {s : String} {n : Int} (writes : toInt? s = some n) :
    ∃ negative c, toBinary64? s = some (Decimal.nearest negative c 0) ∧
      Binary64.signed negative c = n := by
  have bare : Text.stripWith Text.isMargin s.toList = s.toList :=
    Text.stripWith_of_none fun c mem => Text.isMargin_of_not_blank (isBlank_of_toInt? writes mem)
  obtain ⟨negative, body, d, ds, sign, taken, number⟩ := exists_of_toInt? writes
  have read := unsigned?_digits taken
  obtain ⟨c, more, rfl, digit⟩ := takeDigits_begins taken
  refine ⟨negative, ofDigits (d :: ds), ?_, number⟩
  rw [toBinary64?, bare, sign]
  simp [read, folded_ne digit more "inf" (by decide),
    folded_ne digit more "infinity" (by decide), folded_ne digit more "nan" (by decide)]

/-- A whole number is written by its own text. -/
theorem toInt?_toString (n : Int) : toInt? (toString n) = some n := by
  obtain ⟨d, ds, digits, number⟩ := exists_takeDigits_ofNat n.natAbs
  obtain ⟨c, more, begins, digit⟩ : ∃ c more, Digits.ofNat n.natAbs = c :: more ∧
      c.isDigit = true := by
    obtain ⟨c, more, begins⟩ := List.exists_cons_of_ne_nil (Digits.ofNat_ne_nil n.natAbs)
    exact ⟨c, more, begins, Digits.isDigit_of_mem (begins ▸ List.mem_cons_self)⟩
  have written : (toString n).toList = Decimal.signText (n < 0) ++ c :: more := by
    rw [← begins, Int.toString_eq_repr, Int.repr_eq_if]
    by_cases negative : n < 0
    · have size : (-n).toNat = n.natAbs := by omega
      simp [negative, Decimal.signText, Digits.ofNat, size, Int.not_le.mpr negative]
    · have size : n.toNat = n.natAbs := by omega
      simp [negative, Decimal.signText, Digits.ofNat, size, Int.not_lt.mp negative]
  rw [begins] at digits
  rw [toInt?, written, Decimal.takeSign_signText _ digit]
  simp only [digits, number]
  exact congrArg some (Binary64.signed_natAbs n)

end Numeral

namespace Decimal

variable {c : Nat}

/-- A coefficient that is not too long to be looked at is rounded as it is. -/
theorem nearest_unscaled (negative : Bool) (size : (Digits.ofNat c).length ≤ 400) :
    nearest negative c 0 = Binary64.ofRatio negative c 1 := by
  unfold nearest
  by_cases zero : c = 0
  · have exact := Binary64.ofRatio_whole negative (n := 0) (Nat.two_pow_pos 53)
    rw [Nat.zero_mul] at exact
    rw [if_pos zero, zero, exact]
  · have within : ¬ 400 < ((Digits.ofNat c).length : Int) + 0 := by omega
    have above : ¬ ((Digits.ofNat c).length : Int) + 0 < -400 := by omega
    have unscaled : c * Nat.pow 10 (0 : Int).natAbs = c := Nat.mul_one c
    simp only [zero, within, above, unscaled, if_false, Int.lt_irrefl]

/-- A digit has room for three bits. -/
theorem two_pow_le_ten_pow (k : Nat) : 2 ^ (3 * k) ≤ 10 ^ k := by
  rw [Nat.pow_mul]
  exact Nat.pow_le_pow_left (by decide) k

/-- An integer that is rounded to a finite number is not too long. -/
theorem length_digits_le (inRange : c < 2 ^ 1024 - 2 ^ 970) : (Digits.ofNat c).length ≤ 400 := by
  have bits : 1024 ≤ 3 * 400 := by decide
  have short : c < 10 ^ 400 :=
    calc c < 2 ^ 1024 - 2 ^ 970 := inRange
      _ ≤ 2 ^ 1024 := Nat.sub_le _ _
      _ ≤ 2 ^ (3 * 400) := Nat.pow_le_pow_right Nat.two_pos bits
      _ ≤ 10 ^ 400 := two_pow_le_ten_pow 400
  exact (Nat.length_toDigits_le_iff (by decide) (by decide)).mpr short

end Decimal

/-- A value is a whole number or writes one. -/
inductive Value.Counts : Value → Int → Prop
  | number (n : Int) : Counts (.int n) n
  | numeral {s : String} {n : Int} : Numeral.toInt? s = some n → Counts (.text s) n

namespace Value

variable {v : Value} {n : Int}

/-- Whether it comes as itself or is written, an integer stands for a number nearest to it. -/
theorem Counts.standsFor (counts : v.Counts n) (inRange : n.natAbs < 2 ^ 1024 - 2 ^ 970) :
    ∃ x, v.StandsFor x ∧ x.IsNearest n := by
  cases counts with
  | number =>
      obtain ⟨x, form, nearest⟩ := Binary64.exists_ofInt?_isNearest inRange
      exact ⟨x, .int form, nearest⟩
  | @numeral s _ writes =>
      have bare : Text.trim s.toList = s.toList :=
        Text.stripWith_of_none fun c mem => Numeral.isBlank_of_toInt? writes mem
      obtain ⟨negative, c, form, rfl⟩ := Numeral.toBinary64?_of_toInt? writes
      rw [Binary64.natAbs_signed] at inRange
      rw [Decimal.nearest_unscaled negative (Decimal.length_digits_le inRange),
        Binary64.ofRatio_inRange inRange] at form
      have nearest : (Binary64.finite negative (Binary64.roundUnits (c * Binary64.one) 1)).IsNearest
          (Binary64.signed negative c) := .finite (Binary64.signed_roundUnits negative c)
      exact ⟨_, .text (by rw [bare, String.ofList_toList, form]) nearest.ne_nan, nearest⟩

/-- An integer as a condition is given it: itself, or its own text. -/
inductive Gives : Value → Int → Prop
  | number (n : Int) : Gives (.int n) n
  | text (n : Int) : Gives (.text (toString n)) n

theorem Gives.counts (given : v.Gives n) : v.Counts n := by
  cases given with
  | number => exact .number n
  | text => exact .numeral (Numeral.toInt?_toString n)

end Value

namespace Condition

/-- The operators see two values that are integers, or write them, in the order of the
integers. -/
theorem holds_of_counts {a b : Int} {v w : Value} (order : a ≤ b) (left : v.Counts a)
    (right : w.Counts b) (low : a.natAbs < 2 ^ 1024 - 2 ^ 970)
    (high : b.natAbs < 2 ^ 1024 - 2 ^ 970) :
    holds .lessThanOrEquals v w = .ok true ∧ holds .greaterThanOrEquals w v = .ok true ∧
      holds .greaterThan v w = .ok false ∧ holds .lessThan w v = .ok false := by
  obtain ⟨x, first, nearA⟩ := left.standsFor low
  obtain ⟨y, second, nearB⟩ := right.standsFor high
  have within : x.le y = true := nearA.le order nearB
  have above : y.lt x = false := by rw [Binary64.lt, within, Bool.not_true, Bool.and_false]
  refine ⟨?_, ?_, ?_, ?_⟩
  · rw [Operator.holds_numbers rfl first second, within]
  · rw [Operator.holds_numbers rfl second first, within]
  · rw [Operator.holds_numbers rfl first second, above]
  · rw [Operator.holds_numbers rfl second first, above]

/-- Of two integers whose nearest numbers are finite, each given as itself or as its text, the
operators never take the smaller for the greater. -/
theorem whole_numbers_ordered {a b : Int} {v w : Value} (order : a ≤ b)
    (low : a.natAbs < 2 ^ 1024 - 2 ^ 970) (high : b.natAbs < 2 ^ 1024 - 2 ^ 970)
    (left : v.Gives a) (right : w.Gives b) :
    holds .lessThanOrEquals v w = .ok true ∧ holds .greaterThanOrEquals w v = .ok true ∧
      holds .greaterThan v w = .ok false ∧ holds .lessThan w v = .ok false :=
  holds_of_counts order left.counts right.counts low high

/-- Two integers that are rounded to one number, the one given as itself and the other as its
text. -/
theorem rounded_integers_ordered :
    (2 ^ 53 : Int) ≤ 2 ^ 53 + 1 ∧
      (2 ^ 53 : Int).natAbs < 2 ^ 1024 - 2 ^ 970 ∧
      (2 ^ 53 + 1 : Int).natAbs < 2 ^ 1024 - 2 ^ 970 ∧
      holds .lessThanOrEquals (.int (2 ^ 53)) (.text "9007199254740993") = .ok true ∧
      holds .lessThan (.text "9007199254740993") (.int (2 ^ 53)) = .ok false := by
  have order : (2 ^ 53 : Int) ≤ 2 ^ 53 + 1 := by decide
  have low : (2 ^ 53 : Int).natAbs < 2 ^ 1024 - 2 ^ 970 := by decide +kernel
  have high : (2 ^ 53 + 1 : Int).natAbs < 2 ^ 1024 - 2 ^ 970 := by decide +kernel
  have told := whole_numbers_ordered order low high (.number _) (.text _)
  exact ⟨order, low, high, told.1, told.2.2.2⟩

end Condition

end RecordFlow
