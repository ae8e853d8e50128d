/-
# Numerals — a decimal is read back from its text

The text of a decimal tells its sign, its coefficient and its exponent: it is
read as the numeral that it is, whether it stands with all its places or with
an exponent.  So decimals of one value that are written in two ways have two
texts: `Decimal.toText_injective`.  Nothing is told of a NaN, which is no
number.
-/
import RecordFlow.Number.Magnitude
import RecordFlow.Number.Numeral
import RecordFlow.Proofs.ReadBack

namespace RecordFlow

theorem Digits.isDigit_of_mem {n : Nat} {c : Char} (h : c ∈ Digits.ofNat n) : c.isDigit = true :=
  Nat.isDigit_of_mem_toDigits (by decide) (by decide) h

theorem Digits.ofNat_ne_nil (n : Nat) : Digits.ofNat n ≠ [] := Nat.toDigits_ne_nil

theorem ne_of_isDigit {c mark : Char} (digit : c.isDigit = true) (other : mark.isDigit = false) :
    c ≠ mark := by
  rintro rfl
  rw [digit] at other
  cases other

/-- There are ten digits. -/
theorem exists_of_isDigit {c : Char} (digit : c.isDigit = true) :
    ∃ k : Fin 10, c = Char.ofNat (48 + k) := by
  simp only [Char.isDigit, Bool.and_eq_true, decide_eq_true_eq, ge_iff_le] at digit
  obtain ⟨low, high⟩ := digit
  have low : 48 ≤ c.toNat := low
  have high : c.toNat ≤ 57 := high
  refine ⟨⟨c.toNat - 48, by omega⟩, ?_⟩
  have code : 48 + (c.toNat - 48) = c.toNat := by omega
  rw [code, Char.ofNat_toNat]

/-- What all characters of a list are found to be, each of them is. -/
theorem of_all {p : Char → Prop} [DecidablePred p] {cs : List Char}
    (all : cs.all (fun c => decide (p c)) = true) {c : Char} (mem : c ∈ cs) : p c :=
  of_decide_eq_true (List.all_eq_true.mp all c mem)

namespace Numeral

/-! ## Digits -/

/-- The numbers that digits stand for. -/
def valuesOf (cs : List Char) : List Nat := cs.map fun c => c.toNat - '0'.toNat

theorem ofDigits_valuesOf (cs : List Char) : ofDigits (valuesOf cs) = Nat.ofDigitChars 10 cs 0 := by
  rw [ofDigits, valuesOf, List.foldl_map]
  rfl

theorem ofDigits_ofNat (n : Nat) : ofDigits (valuesOf (Digits.ofNat n)) = n := by
  rw [ofDigits_valuesOf, Digits.ofNat, Nat.ofDigitChars_ten_toDigits]

theorem digitValue?_of_isDigit {c : Char} (digit : c.isDigit = true) :
    Text.digitValue? c = some (c.toNat - '0'.toNat) := by
  obtain ⟨k, rfl⟩ := exists_of_isDigit digit
  revert k
  decide

/-- A text that begins with nothing that would go on with digits. -/
def EndsDigits (cs : List Char) : Prop :=
  ∀ c ∈ cs.head?, Text.digitValue? c = none ∧ c ≠ '_'

theorem EndsDigits.takeDigits {rest : List Char} (ends : EndsDigits rest) :
    takeDigits rest = ([], rest) := by
  cases rest with
  | nil => rw [Numeral.takeDigits]
  | cons c rest =>
      rw [Numeral.takeDigits, (ends c rfl).1]

/-- Digits are read as far as they go. -/
theorem takeDigits_append {cs rest : List Char} (digits : ∀ c ∈ cs, c.isDigit = true)
    (ends : EndsDigits rest) : takeDigits (cs ++ rest) = (valuesOf cs, rest) := by
  induction cs with
  | nil => exact ends.takeDigits
  | cons c cs ih =>
      have ih := ih fun d hd => digits d (List.mem_cons_of_mem c hd)
      have value := digitValue?_of_isDigit (digits c List.mem_cons_self)
      have noLine : ∀ next more, cs ++ rest ≠ '_' :: next :: more := by
        intro next more begins
        cases cs with
        | nil => exact (ends '_' (by rw [show rest = _ from begins]; rfl)).2 rfl
        | cons d cs =>
            obtain rfl := (List.cons.inj begins).1
            exact absurd (digits '_' (by simp)) (by decide)
      rw [List.cons_append, takeDigits, value]
      dsimp only
      split
      · rename_i next more begins
        exact absurd begins (noLine next more)
      · rw [ih]
        rfl

theorem takeDigits_all {cs : List Char} (digits : ∀ c ∈ cs, c.isDigit = true) :
    takeDigits cs = (valuesOf cs, []) := by
  have nothing : EndsDigits [] := nofun
  have whole := takeDigits_append digits nothing
  rwa [List.append_nil] at whole

theorem valuesOf_append (cs ds : List Char) : valuesOf (cs ++ ds) = valuesOf cs ++ valuesOf ds :=
  List.map_append

/-- Zeros in front of digits add nothing. -/
theorem ofDigits_replicate_zero (k : Nat) (cs : List Char) :
    ofDigits (valuesOf (List.replicate k '0' ++ cs)) = ofDigits (valuesOf cs) := by
  induction k with
  | zero => rfl
  | succ k ih => rw [← ih]; rfl

/-! ## Decimals -/

/-- The digits of a number are read as that number and leave nothing. -/
theorem exists_takeDigits_ofNat (n : Nat) :
    ∃ d ds, takeDigits (Digits.ofNat n) = (d :: ds, []) ∧ ofDigits (d :: ds) = n := by
  have whole := takeDigits_all fun c => Digits.isDigit_of_mem (n := n) (c := c)
  cases digits : valuesOf (Digits.ofNat n) with
  | nil => exact absurd (List.map_eq_nil_iff.mp digits) (Digits.ofNat_ne_nil n)
  | cons d ds => exact ⟨d, ds, digits ▸ whole, digits ▸ ofDigits_ofNat n⟩

/-- An exponent is read with its sign. -/
theorem exponent?_written (e : Int) :
    exponent? ((if e < 0 then '-' else '+') :: Digits.ofNat e.natAbs) = some e := by
  obtain ⟨d, ds, digits, number⟩ := exists_takeDigits_ofNat e.natAbs
  by_cases negative : e < 0
  · rw [if_pos negative, exponent?, takeSign]
    simp only [digits, number, if_true]
    exact congrArg some (by omega)
  · rw [if_neg negative, exponent?, takeSign]
    simp only [digits, number]
    exact congrArg some (by simp; omega)

/-- What may follow the digits of a numeral, with the exponent that it tells. -/
inductive Scales : List Char → Int → Prop
  | plain : Scales [] 0
  | exponent {cs : List Char} {e : Int} : exponent? cs = some e → Scales ('E' :: cs) e

section

variable {whole fraction tail : List Char} {e : Int}
variable (wholeDigits : ∀ c ∈ whole, c.isDigit = true) (filled : whole ≠ [])
  (scales : Scales tail e)

theorem endsDigits_cons {c : Char} (other : Text.digitValue? c = none ∧ c ≠ '_') (cs : List Char) :
    EndsDigits (c :: cs) := by
  intro d first
  exact Option.some.inj first ▸ other

theorem Scales.endsDigits (scales : Scales tail e) : EndsDigits tail := by
  cases scales with
  | plain => exact nofun
  | exponent => exact endsDigits_cons (by decide) _

theorem valuesOf_isEmpty (filled : whole ≠ []) : (valuesOf whole).isEmpty = false := by
  simpa [valuesOf] using filled

include wholeDigits filled scales

/-- A numeral without a point. -/
theorem unsigned?_whole : unsigned? (whole ++ tail) = some (ofDigits (valuesOf whole), e) := by
  have some_digits := valuesOf_isEmpty filled
  rw [unsigned?, takeDigits_append wholeDigits scales.endsDigits]
  cases scales with
  | plain => simp [some_digits]
  | exponent told => simp [some_digits, told]

/-- A numeral with places: its digits are read as one number, which is scaled by the places. -/
theorem unsigned?_fraction (fractionDigits : ∀ c ∈ fraction, c.isDigit = true) :
    unsigned? (whole ++ '.' :: (fraction ++ tail))
      = some (ofDigits (valuesOf (whole ++ fraction)), e - fraction.length) := by
  have some_digits := valuesOf_isEmpty filled
  have places : (valuesOf fraction).length = fraction.length := List.length_map _
  rw [unsigned?, takeDigits_append wholeDigits (endsDigits_cons (by decide) _)]
  simp only [takeDigits_append fractionDigits scales.endsDigits, places, ← valuesOf_append]
  cases scales with
  | plain => simp [some_digits]
  | exponent told => simp [some_digits, told]

end

/-- Digits with a point among them, zeros being put in front where there are not enough. -/
theorem unsigned?_withPoint {ds : List Char} (digits : ∀ d ∈ ds, d.isDigit = true)
    (filled : ds ≠ []) (places : Nat) :
    unsigned? (Decimal.withPoint ds places) = some (ofDigits (valuesOf ds), -(places : Int)) := by
  unfold Decimal.withPoint
  split
  · rename_i none
    have read := unsigned?_whole digits filled .plain
    rw [List.append_nil] at read
    rw [read, none]
    rfl
  · extract_lets padded
    have paddedDigits : ∀ d ∈ padded, d.isDigit = true := by
      intro d mem
      rcases List.mem_append.mp mem with zero | digit
      · exact List.eq_of_mem_replicate zero ▸ rfl
      · exact digits d digit
    have long : places < padded.length := by
      simp only [padded, List.length_append, List.length_replicate]
      omega
    have size : (padded.drop (padded.length - places)).length = places := by
      rw [List.length_drop]
      omega
    have front : padded.take (padded.length - places) ≠ [] := by
      intro none
      have length := congrArg List.length none
      rw [List.length_take, List.length_nil] at length
      omega
    have back : ∀ d ∈ padded.drop (padded.length - places), d.isDigit = true :=
      fun d mem => paddedDigits d (List.mem_of_mem_drop mem)
    have read := unsigned?_fraction (fun d mem => paddedDigits d (List.mem_of_mem_take mem)) front
      .plain back
    rw [List.append_nil, List.take_append_drop, size, ofDigits_replicate_zero, Int.zero_sub] at read
    exact read

/-- Digits with a point after the first, where there is more than one. -/
theorem unsigned?_mantissa (ds tail : List Char) (e : Int) :
    (∀ d ∈ ds, d.isDigit = true) → ds ≠ [] → Scales tail e →
      unsigned? ((match ds with
          | x :: y :: rest => x :: '.' :: y :: rest
          | ds => ds) ++ tail)
        = some (ofDigits (valuesOf ds), e - (ds.length - 1)) := by
  intro digits filled scales
  match ds with
  | [] => exact absurd rfl filled
  | [x] =>
      rw [unsigned?_whole digits filled scales]
      simp
  | x :: y :: rest =>
      have first : ∀ d ∈ [x], d.isDigit = true := fun d mem => digits d (by simp_all)
      have places : ∀ d ∈ y :: rest, d.isDigit = true :=
        fun d mem => digits d (List.mem_cons_of_mem x mem)
      have read := unsigned?_fraction first (List.cons_ne_nil x []) scales places
      simpa using read

/-- Coefficient and exponent of a decimal are read from its text. -/
theorem unsigned?_finiteText (c : Nat) (e : Int) :
    unsigned? (Decimal.finiteText c e) = some (c, e) := by
  have digits : ∀ d ∈ Digits.ofNat c, d.isDigit = true := fun d => Digits.isDigit_of_mem
  have number := ofDigits_ofNat c
  unfold Decimal.finiteText
  extract_lets ds adjusted mantissa
  split
  · rename_i positional
    have negative : e ≤ 0 := by simpa using (Bool.and_eq_true_iff.mp positional).1
    have places : -(e.natAbs : Int) = e := by omega
    rw [unsigned?_withPoint digits (Digits.ofNat_ne_nil c), number, places]
  · have scales :
        Scales ('E' :: (if adjusted < 0 then '-' else '+') :: Digits.ofNat adjusted.natAbs)
          adjusted := .exponent (exponent?_written adjusted)
    have back : adjusted - ((Digits.ofNat c).length - 1) = e := by
      simp only [adjusted, ds]
      omega
    exact (unsigned?_mantissa _ _ _ digits (Digits.ofNat_ne_nil c) scales).trans
      (by rw [number, back])

end Numeral

namespace Decimal

/-! ## The whole text -/

/-- The characters of the texts of finite decimals. -/
def IsMark (c : Char) : Prop := c.isDigit = true ∨ c ∈ ['.', 'E', '+', '-']

theorem IsMark.isMargin {c : Char} (h : IsMark c) : Text.isMargin c = false := by
  rcases h with digit | mark
  · obtain ⟨k, rfl⟩ := exists_of_isDigit digit
    revert k
    decide
  · exact of_all (p := fun c => Text.isMargin c = false) (by decide) mark

theorem mem_withPoint {ds : List Char} {places : Nat} {c : Char} (h : c ∈ withPoint ds places) :
    c = '0' ∨ c = '.' ∨ c ∈ ds := by
  unfold withPoint at h
  split at h
  · exact .inr (.inr h)
  · extract_lets padded at h
    have part : c ∈ padded → c = '0' ∨ c = '.' ∨ c ∈ ds := by
      intro mem
      rcases List.mem_append.mp mem with zero | digit
      · exact .inl (List.eq_of_mem_replicate zero)
      · exact .inr (.inr digit)
    rcases List.mem_append.mp h with front | back
    · exact part (List.mem_of_mem_take front)
    · rcases List.mem_cons.mp back with point | back
      · exact .inr (.inl point)
      · exact part (List.mem_of_mem_drop back)

theorem mem_mantissa {c : Char} (ds : List Char) :
    c ∈ (match ds with
      | x :: y :: rest => x :: '.' :: y :: rest
      | ds => ds) → c = '.' ∨ c ∈ ds := by
  intro mem
  match ds with
  | [] => cases mem
  | [x] => exact .inr mem
  | x :: y :: rest =>
      simp only [List.mem_cons] at mem ⊢
      tauto

theorem isMark_of_mem_finiteText {coefficient : Nat} {e : Int} {c : Char}
    (h : c ∈ finiteText coefficient e) : IsMark c := by
  have digit : ∀ {n}, c ∈ Digits.ofNat n → IsMark c := fun mem => .inl (Digits.isDigit_of_mem mem)
  unfold finiteText at h
  extract_lets ds adjusted mantissa at h
  split at h
  · rcases mem_withPoint h with rfl | rfl | mem
    · exact .inl rfl
    · exact .inr (by simp)
    · exact digit mem
  · rcases List.mem_append.mp h with front | back
    · rcases mem_mantissa ds front with rfl | mem
      · exact .inr (by simp)
      · exact digit mem
    · rcases List.mem_cons.mp back with rfl | back
      · exact .inr (by simp)
      · rcases List.mem_cons.mp back with rfl | mem
        · exact .inr (by split <;> simp)
        · exact digit mem

theorem withPoint_begins {ds : List Char} (digits : ∀ d ∈ ds, d.isDigit = true) (filled : ds ≠ [])
    (places : Nat) : ∃ c cs, withPoint ds places = c :: cs ∧ c.isDigit = true := by
  unfold withPoint
  split
  · obtain ⟨d, rest, rfl⟩ := List.exists_cons_of_ne_nil filled
    exact ⟨d, rest, rfl, digits d List.mem_cons_self⟩
  · extract_lets padded
    have long : padded.length - places ≠ 0 := by
      simp only [padded, List.length_append, List.length_replicate]
      omega
    cases shown : padded with
    | nil =>
        rw [shown] at long
        exact absurd (Nat.zero_sub places) long
    | cons d rest =>
        obtain ⟨n, size⟩ := Nat.exists_eq_succ_of_ne_zero long
        rw [shown] at size
        refine ⟨d, _, by rw [size]; rfl, ?_⟩
        have mem : d ∈ padded := shown ▸ List.mem_cons_self
        rcases List.mem_append.mp mem with zero | digit
        · exact List.eq_of_mem_replicate zero ▸ rfl
        · exact digits d digit

theorem mantissa_begins (ds tail : List Char) : ds ≠ [] →
    ∃ c cs, (match ds with
      | x :: y :: rest => x :: '.' :: y :: rest
      | ds => ds) ++ tail = c :: cs ∧ c ∈ ds := by
  intro filled
  match ds with
  | [] => exact absurd rfl filled
  | [x] => exact ⟨x, tail, rfl, List.mem_cons_self⟩
  | x :: y :: rest => exact ⟨x, _, rfl, List.mem_cons_self⟩

/-- The text of a finite decimal begins with a digit, after its sign. -/
theorem finiteText_begins (coefficient : Nat) (e : Int) :
    ∃ c cs, finiteText coefficient e = c :: cs ∧ c.isDigit = true := by
  unfold finiteText
  extract_lets ds adjusted mantissa
  split
  · exact withPoint_begins (fun d => Digits.isDigit_of_mem) (Digits.ofNat_ne_nil coefficient) _
  · obtain ⟨c, cs, begins, mem⟩ := mantissa_begins ds _ (Digits.ofNat_ne_nil coefficient)
    exact ⟨c, cs, begins, Digits.isDigit_of_mem mem⟩

/-- The sign is read apart from the digits. -/
theorem takeSign_signText (negative : Bool) {c : Char} (digit : c.isDigit = true)
    (cs : List Char) : Numeral.takeSign (signText negative ++ c :: cs) = (negative, c :: cs) := by
  cases negative with
  | true => rfl
  | false =>
      have minus : c ≠ '-' := ne_of_isDigit digit (by decide)
      have plus : c ≠ '+' := ne_of_isDigit digit (by decide)
      show Numeral.takeSign (c :: cs) = _
      unfold Numeral.takeSign
      split <;> simp_all

/-- What begins with a digit begins with no name of an infinity or of a NaN. -/
theorem startsWith_folded {c : Char} (digit : c.isDigit = true) (cs : List Char) (word : String)
    (letter : word.toList.head? ∈ [some 'i', some 'n', some 's']) :
    (Numeral.folded (c :: cs)).startsWith word = false := by
  obtain ⟨k, rfl⟩ := exists_of_isDigit digit
  have apart : ∀ k : Fin 10,
      some (Char.ofNat (48 + k)).toLower ∉ [some 'i', some 'n', some 's'] := by decide
  rw [← Bool.not_eq_true, String.startsWith_string_iff, Numeral.folded, String.toList_ofList,
    List.map_cons]
  rintro ⟨rest, begins⟩
  refine apart k ?_
  cases letters : word.toList with
  | nil => simp [letters] at letter
  | cons first more =>
      rw [letters] at letter begins
      exact (List.cons.inj begins).1 ▸ letter

theorem folded_ne {c : Char} (digit : c.isDigit = true) (cs : List Char) (word : String)
    (letter : word.toList.head? ∈ [some 'i', some 'n', some 's']) :
    Numeral.folded (c :: cs) ≠ word := by
  intro named
  have apart := startsWith_folded digit cs word letter
  rw [named, String.startsWith_string_iff.mpr List.prefix_rfl] at apart
  cases apart

/-- What is written of a finite decimal is read back: sign, coefficient and exponent. -/
theorem toDecimal?_finite (negative : Bool) (coefficient : Nat) (e : Int) :
    Numeral.toDecimal? (toText (.finite negative coefficient e))
      = some (.finite negative coefficient e) := by
  have bare : Text.stripWith Text.isMargin (signText negative ++ finiteText coefficient e)
      = signText negative ++ finiteText coefficient e := by
    refine Text.stripWith_of_none fun c mem => ?_
    rcases List.mem_append.mp mem with sign | mark
    · cases negative with
      | false => cases sign
      | true => exact List.mem_singleton.mp sign ▸ rfl
    · exact (isMark_of_mem_finiteText mark).isMargin
  have number := Numeral.unsigned?_finiteText coefficient e
  obtain ⟨c, cs, begins, digit⟩ := finiteText_begins coefficient e
  rw [begins] at bare number
  rw [Numeral.toDecimal?, toText, begins, String.toList_ofList, bare,
    takeSign_signText negative digit]
  simp [number, folded_ne digit cs "inf" (by decide),
    folded_ne digit cs "infinity" (by decide),
    startsWith_folded digit cs "nan" (by decide), startsWith_folded digit cs "snan" (by decide)]

theorem toDecimal?_infinite (negative : Bool) :
    Numeral.toDecimal? (toText (.infinite negative)) = some (.infinite negative) := by
  cases negative <;> rfl

/-- What is written of a decimal that has a place on the line is read back. -/
theorem toDecimal?_toText {d : Decimal} {m : Magnitude} (placed : Magnitude.ofDecimal? d = some m) :
    Numeral.toDecimal? d.toText = some d := by
  cases d with
  | finite negative coefficient e => exact toDecimal?_finite negative coefficient e
  | infinite negative => exact toDecimal?_infinite negative
  | nan => cases placed

/-- Two decimals that are numbers have one text only if they are written with the same digits and
the same exponent. -/
theorem toText_injective {d e : Decimal} {m n : Magnitude} (left : Magnitude.ofDecimal? d = some m)
    (right : Magnitude.ofDecimal? e = some n) (same : d.toText = e.toText) : d = e := by
  have read := toDecimal?_toText left
  rw [same, toDecimal?_toText right] at read
  exact (Option.some.inj read).symm

end Decimal
end RecordFlow
