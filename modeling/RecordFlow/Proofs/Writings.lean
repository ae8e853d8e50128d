/-
# Writings — what stands in a larger text can be told from what follows it

A quoted text ends where its quote is closed: whatever it holds, it is told
from what follows, for each of its characters can be read back.  The text of a
number has no character of those that may follow it inside a list or a record,
and equal numbers whose texts are the same are of one kind.
-/
import RecordFlow.Proofs.Equality
import RecordFlow.Proofs.Magnitudes
import RecordFlow.Proofs.Numerals
import RecordFlow.Value.Text

namespace RecordFlow

namespace Text

/-! ## Quoted texts -/

/-- A character by its number in front of a text, and the rest. -/
def numbered (width : Nat) (cs : List Char) : Char × List Char :=
  (Char.ofNat (Uid.digitsValue 0 (cs.take width)), cs.drop width)

/-- The character in front of a quoted text, escaped or not, and the rest. -/
def readQuotedChar : List Char → Option (Char × List Char)
  | '\\' :: 'n' :: rest => some ('\n', rest)
  | '\\' :: 'r' :: rest => some ('\r', rest)
  | '\\' :: 't' :: rest => some ('\t', rest)
  | '\\' :: 'x' :: rest => some (numbered 2 rest)
  | '\\' :: 'u' :: rest => some (numbered 4 rest)
  | '\\' :: 'U' :: rest => some (numbered 8 rest)
  | '\\' :: c :: rest => some (c, rest)
  | c :: rest => some (c, rest)
  | [] => none

/-- The two quotes. -/
def IsQuote (c : Char) : Prop := c ∈ ['\'', '"']

theorem isQuote_chosenQuote (s : String) : IsQuote (chosenQuote s) := by
  unfold chosenQuote
  split
  · exact List.mem_cons_of_mem _ List.mem_cons_self
  · exact List.mem_cons_self

theorem numbered_hexFixed {width : Nat} {c : Char} (fits : c.toNat < 16 ^ width)
    (rest : List Char) : numbered width (hexFixed width c.toNat ++ rest) = (c, rest) := by
  have size := length_hexFixed width c.toNat
  have front : (hexFixed width c.toNat ++ rest).take width = hexFixed width c.toNat := by
    rw [List.take_append_of_le_length size.ge, List.take_of_length_le size.le]
  have back : (hexFixed width c.toNat ++ rest).drop width = rest := by
    rw [List.drop_append_of_le_length size.ge, List.drop_of_length_le size.le, List.nil_append]
  rw [numbered, front, back, Uid.digitsValue_hexFixed, Nat.mul_zero, Nat.zero_add,
    Nat.mod_eq_of_lt fits, Char.ofNat_toNat]

theorem readQuotedChar_plain {c : Char} (plain : c ≠ '\\') (rest : List Char) :
    readQuotedChar (c :: rest) = some (c, rest) := by
  unfold readQuotedChar
  split <;> simp_all

/-- A character of a quoted text is read back. -/
theorem readQuotedChar_quotedChar {quote : Char} (isQuote : IsQuote quote) (c : Char)
    (rest : List Char) : readQuotedChar (quotedChar quote c ++ rest) = some (c, rest) := by
  unfold quotedChar
  split
  · rename_i marked
    have mark : c ∈ ['\'', '"', '\\'] := by
      rcases Bool.or_eq_true_iff.mp marked with same | slash
      · rw [eq_of_beq same]
        exact List.mem_append_left ['\\'] isQuote
      · rw [eq_of_beq slash]
        decide
    simp only [List.mem_cons, List.not_mem_nil, or_false] at mark
    rcases mark with rfl | rfl | rfl <;> rfl
  rename_i unmarked
  split
  · rename_i line
    rw [eq_of_beq line]
    rfl
  split
  · rename_i line
    rw [eq_of_beq line]
    rfl
  split
  · rename_i tab
    rw [eq_of_beq tab]
    rfl
  split
  · unfold numberEscape
    split
    · rename_i small
      exact congrArg some (numbered_hexFixed small rest)
    split
    · rename_i middle
      exact congrArg some (numbered_hexFixed middle rest)
    · have large : c.toNat < 16 ^ 8 := lt_of_lt_of_le c.val.toNat_lt (by decide)
      exact congrArg some (numbered_hexFixed large rest)
  · have plain : c ≠ '\\' := by
      rintro rfl
      simp at unmarked
    exact readQuotedChar_plain plain rest

/-- No character is written so that it begins with the quote in use. -/
theorem quotedChar_begins {quote : Char} (isQuote : IsQuote quote) (c : Char) :
    ∃ first more, quotedChar quote c = first :: more ∧ first ≠ quote := by
  have slash : '\\' ≠ quote := by
    rintro rfl
    exact absurd (show '\\' ∈ ['\'', '"'] from isQuote) (by decide)
  unfold quotedChar
  split
  · exact ⟨'\\', [c], rfl, slash⟩
  rename_i unmarked
  split
  · exact ⟨'\\', ['n'], rfl, slash⟩
  split
  · exact ⟨'\\', ['r'], rfl, slash⟩
  split
  · exact ⟨'\\', ['t'], rfl, slash⟩
  split
  · unfold numberEscape
    split
    · exact ⟨'\\', _, rfl, slash⟩
    split
    · exact ⟨'\\', _, rfl, slash⟩
    · exact ⟨'\\', _, rfl, slash⟩
  · refine ⟨c, [], rfl, ?_⟩
    rintro rfl
    simp at unmarked

/-- What is quoted is told from what follows the quote that closes it. -/
theorem quotedChars_append_inj {quote : Char} (isQuote : IsQuote quote) {cs ds r s : List Char}
    (same : cs.flatMap (quotedChar quote) ++ quote :: r
      = ds.flatMap (quotedChar quote) ++ quote :: s) : cs = ds ∧ r = s := by
  induction cs generalizing ds with
  | nil =>
      cases ds with
      | nil => exact ⟨rfl, (List.cons.inj same).2⟩
      | cons d ds =>
          obtain ⟨first, more, begins, other⟩ := quotedChar_begins isQuote d
          rw [List.flatMap_cons, begins] at same
          exact absurd (List.cons.inj same).1.symm other
  | cons c cs ih =>
      cases ds with
      | nil =>
          obtain ⟨first, more, begins, other⟩ := quotedChar_begins isQuote c
          rw [List.flatMap_cons, begins] at same
          exact absurd (List.cons.inj same).1 other
      | cons d ds =>
          rw [List.flatMap_cons, List.flatMap_cons, List.append_assoc, List.append_assoc] at same
          have read := congrArg readQuotedChar same
          rw [readQuotedChar_quotedChar isQuote, readQuotedChar_quotedChar isQuote,
            Option.some.injEq, Prod.mk.injEq] at read
          obtain ⟨rfl, rest⟩ := read
          obtain ⟨rfl, rfl⟩ := ih rest
          exact ⟨rfl, rfl⟩

/-- A quoted text is told from what follows it, whatever it holds. -/
theorem quoted_append_inj {s t : String} {q r : List Char}
    (same : (quoted s).toList ++ q = (quoted t).toList ++ r) : s = t ∧ q = r := by
  simp only [quoted, String.toList_ofList, List.cons_append, List.append_assoc, List.nil_append,
    List.cons.injEq] at same
  obtain ⟨quotes, rest⟩ := same
  rw [quotes] at rest
  obtain ⟨chars, rest⟩ := quotedChars_append_inj (isQuote_chosenQuote t) rest
  exact ⟨String.toList_inj.mp chars, rest⟩

end Text

/-! ## Floating-point numbers -/

namespace Binary64

theorem isDigit_of_mem_shortestFrom {units : Nat} {point : Int} {fuel count : Nat} {c : Char}
    (h : c ∈ (shortestFrom units point fuel count).digits) : c.isDigit = true := by
  fun_induction shortestFrom units point fuel count with
  | case1 => exact List.mem_singleton.mp h ▸ rfl
  | case2 count fuel k _ ds =>
      have mem : c ∈ (ds.reverse.dropWhile (· == '0')).reverse := h
      rw [List.mem_reverse] at mem
      exact Digits.isDigit_of_mem (List.mem_reverse.mp ((List.dropWhile_sublist _).mem mem))
  | case3 count fuel _ ih => exact ih h

theorem isDigit_of_mem_shortest {units : Nat} {c : Char} (h : c ∈ (shortest units).digits) :
    c.isDigit = true := by
  unfold shortest at h
  split at h
  · exact List.mem_singleton.mp h ▸ rfl
  · exact isDigit_of_mem_shortestFrom h

end Binary64

namespace FloatLayout

/-- The characters that stand in the text of a finite number. -/
def IsMark (c : Char) : Prop := c.isDigit = true ∨ c ∈ ['.', 'e', '+', '-']

instance : DecidablePred IsMark := fun c =>
  inferInstanceAs (Decidable (c.isDigit = true ∨ c ∈ ['.', 'e', '+', '-']))

/-- A text of those characters that a point or an exponent tells from a whole number. -/
structure IsFraction (cs : List Char) : Prop where
  marks : ∀ c ∈ cs, IsMark c
  told : '.' ∈ cs ∨ 'e' ∈ cs

theorem isMark_of_mem_replicate {n : Nat} {c : Char} (h : c ∈ List.replicate n '0') : IsMark c :=
  .inl (List.eq_of_mem_replicate h ▸ rfl)

theorem isFraction_positional {d : Digits} (digits : ∀ c ∈ d.digits, c.isDigit = true) :
    IsFraction (positional d) := by
  unfold positional
  extract_lets len
  have zero : IsMark '0' := .inl rfl
  have point : IsMark '.' := .inr (by decide)
  split
  · refine ⟨fun c mem => ?_, .inl (by simp)⟩
    simp only [List.cons_append, List.mem_cons, List.mem_append] at mem
    rcases mem with rfl | rfl | zeros | digit
    · exact zero
    · exact point
    · exact isMark_of_mem_replicate zeros
    · exact .inl (digits c digit)
  split
  · refine ⟨fun c mem => ?_, .inl (by simp)⟩
    simp only [List.mem_append, List.mem_cons, List.not_mem_nil, or_false] at mem
    rcases mem with (digit | zeros) | rfl | rfl
    · exact .inl (digits c digit)
    · exact isMark_of_mem_replicate zeros
    · exact point
    · exact zero
  · refine ⟨fun c mem => ?_, .inl (by simp)⟩
    simp only [List.mem_append, List.mem_cons] at mem
    rcases mem with front | rfl | back
    · exact .inl (digits c (List.mem_of_mem_take front))
    · exact point
    · exact .inl (digits c (List.mem_of_mem_drop back))

theorem mem_mantissa {lone : List Char} {c : Char} (ds : List Char) :
    c ∈ (match ds with
      | [] => []
      | [x] => x :: lone
      | x :: xs => x :: '.' :: xs) → c = '.' ∨ c ∈ ds ∨ c ∈ lone := by
  intro mem
  match ds with
  | [] => cases mem
  | [x] =>
      simp only [List.mem_cons] at mem ⊢
      tauto
  | x :: y :: rest =>
      simp only [List.mem_cons] at mem ⊢
      tauto

theorem isFraction_exponential {d : Digits} (digits : ∀ c ∈ d.digits, c.isDigit = true) :
    IsFraction (plain.exponential d) := by
  unfold exponential
  extract_lets e es mantissa
  refine ⟨fun c mem => ?_, .inr (by simp)⟩
  simp only [List.mem_append, List.mem_cons] at mem
  rcases mem with ((front | rfl | sign) | zeros) | digit
  · rcases mem_mantissa d.digits front with rfl | digit | lone
    · exact .inr (by decide)
    · exact .inl (digits c digit)
    · cases lone
  · exact .inr (by decide)
  · refine .inr ?_
    split at sign <;> obtain rfl := List.mem_singleton.mp sign <;> decide
  · exact isMark_of_mem_replicate zeros
  · exact .inl (Digits.isDigit_of_mem digit)

theorem IsFraction.signed {cs : List Char} (h : IsFraction cs) (negative : Bool) :
    IsFraction (if negative then '-' :: cs else cs) := by
  split
  · refine ⟨fun c mem => ?_, h.told.imp (List.mem_cons_of_mem _) (List.mem_cons_of_mem _)⟩
    rcases List.mem_cons.mp mem with rfl | mem
    · exact .inr (by decide)
    · exact h.marks c mem
  · exact h

theorem isFraction_write (negative : Bool) (units : Nat) :
    IsFraction (plain.write (.finite negative units)).toList := by
  have digits : ∀ c ∈ (Binary64.shortest units).digits, c.isDigit = true :=
    fun c => Binary64.isDigit_of_mem_shortest
  unfold write writeDigits
  rw [String.toList_ofList]
  refine IsFraction.signed ?_ negative
  split
  · exact isFraction_positional digits
  · exact isFraction_exponential digits

end FloatLayout

/-! ## Numbers inside larger texts -/

/-- Texts that have nothing of a class, in front of texts that begin with it or are empty, are told
apart from them. -/
theorem append_inj_of_apart (marks : Char → Prop) {cs ds r s : List Char}
    (left : ∀ c ∈ cs, ¬marks c) (right : ∀ c ∈ ds, ¬marks c) (leftEnds : ∀ c ∈ r.head?, marks c)
    (rightEnds : ∀ c ∈ s.head?, marks c) (same : cs ++ r = ds ++ s) : cs = ds ∧ r = s := by
  induction cs generalizing ds with
  | nil =>
      cases ds with
      | nil => exact ⟨rfl, same⟩
      | cons d ds =>
          have first : r = d :: (ds ++ s) := same
          exact absurd (leftEnds d (by rw [first]; rfl)) (right d List.mem_cons_self)
  | cons c cs ih =>
      cases ds with
      | nil =>
          have first : s = c :: (cs ++ r) := same.symm
          exact absurd (rightEnds c (by rw [first]; rfl)) (left c List.mem_cons_self)
      | cons d ds =>
          obtain ⟨rfl, rest⟩ := List.cons.inj same
          obtain ⟨rfl, rfl⟩ := ih (fun x hx => left x (List.mem_cons_of_mem c hx))
            (fun x hx => right x (List.mem_cons_of_mem c hx)) rest
          exact ⟨rfl, rfl⟩

namespace Value

/-- What may follow a value inside a list, a tuple or a record. -/
def stops : List Char := [',', ']', ')', '\x7d']

/-- A text that begins with what may follow a value, or with nothing. -/
def Stops (cs : List Char) : Prop := ∀ c ∈ cs.head?, c ∈ stops

/-- A number that is written without a word in front of it. -/
inductive IsBare : Value → Prop
  | bool (b : Bool) : IsBare (bool b)
  | int (n : Int) : IsBare (int n)
  | float (x : Binary64) : IsBare (float x)

theorem mem_spelled_bool {b : Bool} {c : Char} (h : c ∈ (bool b).spelled.toList) :
    c ∈ ['T', 'r', 'u', 'e', 'F', 'a', 'l', 's'] := by
  cases b <;>
    exact of_all (p := (· ∈ ['T', 'r', 'u', 'e', 'F', 'a', 'l', 's'])) (by decide) h

theorem mem_spelled_int {n : Int} {c : Char} (h : c ∈ (int n).spelled.toList) :
    c.isDigit = true ∨ c = '-' := by
  rw [spelled, Int.toString_eq_repr, Int.repr_eq_if] at h
  split at h
  · rw [Nat.toList_repr] at h
    exact .inl (Digits.isDigit_of_mem h)
  · rw [String.toList_append, List.mem_append, Nat.toList_repr] at h
    exact h.symm.imp Digits.isDigit_of_mem List.mem_singleton.mp

theorem mem_spelled_float {x : Binary64} {c : Char} (h : c ∈ (float x).spelled.toList) :
    FloatLayout.IsMark c ∨ c ∈ ['i', 'n', 'f', 'a'] := by
  cases x with
  | finite negative units => exact .inl ((FloatLayout.isFraction_write negative units).marks c h)
  | infinite negative =>
      cases negative <;>
        exact of_all (p := fun c => FloatLayout.IsMark c ∨ c ∈ ['i', 'n', 'f', 'a']) (by decide) h
  | nan => exact .inr (of_all (p := (· ∈ ['i', 'n', 'f', 'a'])) (by decide) h)

/-- Where the text of a bare number ends can be told, and no decimal begins like it. -/
theorem IsBare.not_stop {v : Value} (h : v.IsBare) {c : Char} (mem : c ∈ v.spelled.toList) :
    c ∉ 'D' :: stops := by
  have digit : ∀ k : Fin 10, Char.ofNat (48 + k) ∉ 'D' :: stops := by decide
  have others : ∀ cs : List Char, cs.all (fun c => decide (c ∉ 'D' :: stops)) = true →
      c ∈ cs → c ∉ 'D' :: stops := fun cs all => of_all all
  cases h with
  | bool b => exact others _ (by decide) (mem_spelled_bool mem)
  | int n =>
      rcases mem_spelled_int mem with isDigit | rfl
      · obtain ⟨k, rfl⟩ := exists_of_isDigit isDigit
        exact digit k
      · decide
  | float x =>
      rcases mem_spelled_float mem with (isDigit | mark) | name
      · obtain ⟨k, rfl⟩ := exists_of_isDigit isDigit
        exact digit k
      · exact others _ (by decide) mark
      · exact others _ (by decide) name

/-! ### Equal numbers -/

theorem spelled_bool_ne_int (b : Bool) (n : Int) : (bool b).spelled ≠ (int n).spelled := by
  intro same
  have letter : 'e' ∈ (bool b).spelled.toList := by cases b <;> decide
  rw [same] at letter
  rcases mem_spelled_int letter with digit | minus
  · exact absurd digit (by decide)
  · exact absurd minus (by decide)

theorem spelled_bool_ne_float (b : Bool) (x : Binary64) : (bool b).spelled ≠ (float x).spelled := by
  intro same
  have capital : 'T' ∈ (bool b).spelled.toList ∨ 'F' ∈ (bool b).spelled.toList := by
    cases b <;> decide
  rw [same] at capital
  rcases capital with mem | mem <;> exact absurd (mem_spelled_float mem) (by decide)

theorem spelled_int_ne_float (n : Int) (x : Binary64) : (int n).spelled ≠ (float x).spelled := by
  intro same
  have letter : '.' ∈ (float x).spelled.toList ∨ 'e' ∈ (float x).spelled.toList ∨
      'n' ∈ (float x).spelled.toList := by
    cases x with
    | finite negative units =>
        exact (FloatLayout.isFraction_write negative units).told.imp_right .inl
    | infinite negative => cases negative <;> decide
    | nan => decide
  rw [← same] at letter
  rcases letter with mem | mem | mem <;> exact absurd (mem_spelled_int mem) (by decide)

/-- Equal bare numbers with one text are the same: a truth value, a whole number and a fraction are
told apart, and so are the two zeros. -/
theorem IsBare.eq_of_spelled {a b : Value} (left : a.IsBare) (right : b.IsBare)
    (equal : equalNumbers a b = .ok true) (same : a.spelled = b.spelled) : a = b := by
  obtain ⟨m, here, there⟩ := equalNumbers_iff.mp equal
  cases left with
  | bool b =>
      cases right with
      | bool c =>
          cases b <;> cases c
          · rfl
          · exact absurd same (by decide)
          · exact absurd same (by decide)
          · rfl
      | int n => exact absurd same (spelled_bool_ne_int b n)
      | float x => exact absurd same (spelled_bool_ne_float b x)
  | int n =>
      cases right with
      | bool b => exact absurd same.symm (spelled_bool_ne_int b n)
      | int k =>
          have place := here.trans there.symm
          exact congrArg Value.int (Magnitude.ofInt_injective (Option.some.inj place))
      | float x => exact absurd same (spelled_int_ne_float n x)
  | float x =>
      cases right with
      | bool b => exact absurd same.symm (spelled_bool_ne_float b x)
      | int n => exact absurd same.symm (spelled_int_ne_float n x)
      | float y =>
          rcases Binary64.eq_of_equal here there with rfl | ⟨s, t, rfl, rfl⟩
          · rfl
          · cases s <;> cases t
            · rfl
            · exact absurd same (by decide)
            · exact absurd same (by decide)
            · rfl

/-! ### Decimals -/

theorem quote_not_mem_toText {d : Decimal} {m : Magnitude}
    (placed : Magnitude.ofDecimal? d = some m) :
    '\'' ∉ d.toText.toList := by
  cases d with
  | nan => cases placed
  | infinite negative => cases negative <;> decide
  | finite negative c e =>
      rw [Decimal.toText, String.toList_ofList, List.mem_append]
      rintro (sign | mark)
      · cases negative with
        | false => cases sign
        | true => exact absurd (List.mem_singleton.mp sign) (by decide)
      · rcases Decimal.isMark_of_mem_finiteText mark with digit | mark
        · exact absurd digit (by decide)
        · exact absurd mark (by decide)

/-- A decimal inside a larger text is told from what follows it. -/
theorem spelled_decimal_append_inj {d e : Decimal}
    (equal : equalNumbers (decimal d) (decimal e) = .ok true)
    {r s : List Char} (same : (decimal d).spelled.toList ++ r = (decimal e).spelled.toList ++ s) :
    d = e ∧ r = s := by
  obtain ⟨m, here, there⟩ := equalNumbers_iff.mp equal
  have opened : ∀ (f : Decimal) (q : List Char), (decimal f).spelled.toList ++ q
      = "Decimal('".toList ++ (f.toText.toList ++ '\'' :: ')' :: q) := by
    intro f q
    rw [spelled, String.toList_append, String.toList_append]
    simp
  rw [opened, opened, List.append_cancel_left_eq] at same
  obtain ⟨text, rest⟩ := append_inj_of_apart (· = '\'')
    (fun c mem quote => quote_not_mem_toText here (quote ▸ mem))
    (fun c mem quote => quote_not_mem_toText there (quote ▸ mem)) (by simp) (by simp) same
  refine ⟨Decimal.toText_injective here there (String.toList_inj.mp text), ?_⟩
  simpa using rest

theorem IsBare.append_ne_decimal {v : Value} (h : v.IsBare) (d : Decimal) {r s : List Char}
    (ends : Stops r) : v.spelled.toList ++ r ≠ (decimal d).spelled.toList ++ s := by
  intro same
  have word : ∃ more, (decimal d).spelled.toList ++ s = 'D' :: more := by
    rw [spelled, String.toList_append, String.toList_append]
    exact ⟨_, rfl⟩
  obtain ⟨more, begins⟩ := word
  rw [begins] at same
  cases text : v.spelled.toList with
  | nil =>
      rw [text, List.nil_append] at same
      exact absurd (ends 'D' (by rw [same]; rfl)) (by decide)
  | cons c cs =>
      rw [text] at same
      obtain rfl := (List.cons.inj same).1
      exact h.not_stop (by rw [text]; exact List.mem_cons_self) (by decide)

theorem isBare_or_decimal {v : Value} (number : v.isNumber = true) :
    v.IsBare ∨ ∃ d, v = decimal d := by
  cases v with
  | bool b => exact .inl (.bool b)
  | int n => exact .inl (.int n)
  | float x => exact .inl (.float x)
  | decimal d => exact .inr ⟨d, rfl⟩
  | _ => cases number

/-- Equal numbers inside larger texts that are the same there are the same numbers, and are
followed by the same. -/
theorem spelled_number_append_inj {a b : Value} (left : a.isNumber = true)
    (right : b.isNumber = true) (equal : equalNumbers a b = .ok true) {r s : List Char}
    (leftEnds : Stops r) (rightEnds : Stops s)
    (same : a.spelled.toList ++ r = b.spelled.toList ++ s) : a = b ∧ r = s := by
  have apart : ∀ {v : Value}, v.IsBare → ∀ c ∈ v.spelled.toList, c ∉ stops := fun bare c mem stop =>
    bare.not_stop mem (List.mem_cons_of_mem 'D' stop)
  rcases isBare_or_decimal left with bare | ⟨d, rfl⟩ <;>
    rcases isBare_or_decimal right with other | ⟨e, rfl⟩
  · obtain ⟨text, rest⟩ :=
      append_inj_of_apart (· ∈ stops) (apart bare) (apart other) leftEnds rightEnds same
    exact ⟨bare.eq_of_spelled other equal (String.toList_inj.mp text), rest⟩
  · exact absurd same (bare.append_ne_decimal e leftEnds)
  · exact absurd same.symm (other.append_ne_decimal d rightEnds)
  · obtain ⟨rfl, rest⟩ := spelled_decimal_append_inj equal same
    exact ⟨rfl, rest⟩

end Value
end RecordFlow
