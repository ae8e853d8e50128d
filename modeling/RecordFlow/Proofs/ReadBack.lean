/-
# What is written is read back — identifiers, words and documents

A table holds texts, words and documents where a record has identifiers,
members of vocabularies, conditions and outcomes.  Each of these is read as it
was written, provided that it can be written at all: that a word is none that
would be read as another, and that a value is one that JSON can say.
-/
import Mathlib.Algebra.Group.Nat.Defs
import Mathlib.Data.List.Nodup
import RecordFlow.Proofs.Lengths
import RecordFlow.Proofs.Sequences
import RecordFlow.Store.Rows

namespace RecordFlow

/-! ## Identifiers

The text of an identifier is made of hexadecimal digits and hyphens, none of
which is a part of the decoration that reading passes over. -/

namespace Text

/-- A digit of those that hexadecimal numerals are written with. -/
def IsHexDigit (c : Char) : Prop := ∃ d : Fin 16, c = Nat.digitChar d

theorem isHexDigit_hexDigit (n : Nat) : IsHexDigit (hexDigit n) :=
  ⟨⟨n % 16, Nat.mod_lt _ (by decide)⟩, rfl⟩

theorem isHexDigit_of_mem_hexFixed {width n : Nat} {c : Char} (h : c ∈ hexFixed width n) :
    IsHexDigit c := by
  induction width generalizing n with
  | zero => cases h
  | succ width ih =>
      rcases List.mem_append.mp h with h | h
      · exact ih h
      · rw [List.mem_singleton.mp h]
        exact isHexDigit_hexDigit n

theorem length_hexFixed (width n : Nat) : (hexFixed width n).length = width := by
  induction width generalizing n with
  | zero => rfl
  | succ width ih => simp [hexFixed, ih]

/-- A text that has nothing of a class is stripped of nothing. -/
theorem stripWith_of_none {p : Char → Bool} {cs : List Char} (none : ∀ c ∈ cs, p c = false) :
    stripWith p cs = cs := by
  have keeps : ∀ ds : List Char, (∀ c ∈ ds, p c = false) → ds.dropWhile p = ds := by
    intro ds h
    cases ds with
    | nil => rfl
    | cons c ds => rw [List.dropWhile_cons_of_neg (by simp [h c List.mem_cons_self])]
  rw [stripWith, keeps cs none, keeps _ fun c h => none c (List.mem_reverse.mp h),
    List.reverse_reverse]

end Text

namespace Uid

open Text

/-- A hexadecimal digit stands for its value and for nothing else that reading knows. -/
theorem hexDigit_told (d : Fin 16) :
    hexValue? (Nat.digitChar d) = some d.val ∧ isBrace (Nat.digitChar d) = false ∧
      isMargin (Nat.digitChar d) = false ∧
      Nat.digitChar d ∉ ['u', '-', '_', '+', 'x', 'X'] := by
  revert d
  decide

theorem ne_of_isHexDigit {c mark : Char} (h : IsHexDigit c)
    (known : mark ∈ ['u', '-', '_', '+', 'x', 'X']) : c ≠ mark := by
  obtain ⟨d, rfl⟩ := h
  rintro rfl
  exact (hexDigit_told d).2.2.2 known

/-- The number that digits add to what the digits before them have written. -/
def digitsValue (value : Nat) (cs : List Char) : Nat :=
  cs.foldl (fun v c => 16 * v + (hexValue? c).getD 0) value

theorem hexDigits?_of_digits {cs : List Char} (digits : ∀ c ∈ cs, IsHexDigit c) (value : Nat) :
    hexDigits? value cs = if cs = [] then none else some (digitsValue value cs) := by
  fun_induction hexDigits? value cs with
  | case1 => rfl
  | case2 value c =>
      obtain ⟨d, rfl⟩ := digits c List.mem_cons_self
      simp [digitsValue, (hexDigit_told d).1]
  | case3 value c rest ih =>
      exact absurd rfl (ne_of_isHexDigit (digits '_' (by simp)) (by simp))
  | case4 value c rest more _ ih =>
      obtain ⟨d, rfl⟩ := digits c List.mem_cons_self
      have ih := ih d.val fun c h => digits c (List.mem_cons_of_mem _ h)
      rw [if_neg more] at ih
      simp [(hexDigit_told d).1, ih, digitsValue]

theorem digitsValue_hexFixed (width n value : Nat) :
    digitsValue value (hexFixed width n) = 16 ^ width * value + n % 16 ^ width := by
  induction width generalizing n value with
  | zero => simp [digitsValue, hexFixed, Nat.mod_one]
  | succ width ih =>
      have last : hexValue? (hexDigit n) = some (n % 16) :=
        (hexDigit_told ⟨n % 16, Nat.mod_lt _ (by decide)⟩).1
      have ih := ih (n / 16) value
      simp only [digitsValue] at ih
      simp only [digitsValue, hexFixed, List.foldl_append, ih, List.foldl_cons, List.foldl_nil,
        last, Option.getD_some]
      rw [Nat.pow_succ, Nat.mul_comm (16 ^ width) 16, Nat.mod_mul, Nat.mul_add, Nat.mul_assoc]
      omega

theorem withoutAll_of_not_mem {mark : Char} {pattern cs : List Char} (absent : mark ∉ cs) :
    withoutAll (mark :: pattern) 0 cs = cs := by
  induction cs with
  | nil => rfl
  | cons c cs ih =>
      simp only [List.mem_cons, not_or] at absent
      have other : (mark :: pattern).isPrefixOf (c :: cs) = false := by
        simp [List.isPrefixOf, absent.1]
      simp [withoutAll, other, ih absent.2]

/-- The hyphens between the groups are all that grouping adds. -/
theorem filter_grouped {cs : List Char} (digits : ∀ c ∈ cs, IsHexDigit c) :
    (grouped cs).filter (· != '-') = cs := by
  have plain : ∀ ds : List Char, (∀ c ∈ ds, c ∈ cs) → ds.filter (· != '-') = ds := by
    intro ds inside
    refine List.filter_eq_self.mpr fun c h => ?_
    simpa using ne_of_isHexDigit (digits c (inside c h)) (by simp)
  have part := fun (i n : Nat) => plain ((cs.drop i).take n) fun c h =>
    List.mem_of_mem_drop (List.mem_of_mem_take h)
  have first := plain (cs.take 8) fun c h => List.mem_of_mem_take h
  have last := plain (cs.drop 20) fun c h => List.mem_of_mem_drop h
  have join := fun i n : Nat => List.take_append_drop n (cs.drop i)
  simp only [grouped, List.filter_append, List.filter_cons, first, part, last, bne_self_eq_false,
    Bool.false_eq_true, if_false, List.append_assoc, List.cons_append]
  have step : ∀ i n k : Nat, i + n = k → (cs.drop i).take n ++ cs.drop k = cs.drop i := by
    intro i n k h
    rw [← h, ← List.drop_drop, join]
  rw [step 16 4 20 rfl, step 12 4 16 rfl, step 8 4 12 rfl, List.take_append_drop]

theorem mem_grouped {cs : List Char} {c : Char} (h : c ∈ grouped cs) : c = '-' ∨ c ∈ cs := by
  simp only [grouped, List.mem_append, List.mem_cons] at h
  grind [List.mem_of_mem_take, List.mem_of_mem_drop]

theorem hexNumeral?_of_digits {cs : List Char} (digits : ∀ c ∈ cs, IsHexDigit c)
    (some : cs ≠ []) : hexNumeral? cs = .some (digitsValue 0 cs) := by
  have bare : stripWith isMargin cs = cs := stripWith_of_none fun c h => by
    obtain ⟨d, rfl⟩ := digits c h
    exact (hexDigit_told d).2.2.1
  have noPlus : withoutPlus cs = cs := by
    cases cs with
    | nil => rfl
    | cons c rest =>
        have : c ≠ '+' := ne_of_isHexDigit (digits c List.mem_cons_self) (by simp)
        simp [withoutPlus, this]
  have noMark : withoutBaseMark cs = cs := by
    match cs, digits with
    | [], _ | [_], _ => rfl
    | c :: x :: rest, digits =>
        have hx := digits x (by simp)
        have small : x ≠ 'x' := ne_of_isHexDigit hx (by simp)
        have large : x ≠ 'X' := ne_of_isHexDigit hx (by simp)
        simp [withoutBaseMark, small, large]
  rw [hexNumeral?, bare, noPlus, noMark, hexDigits?_of_digits digits, if_neg some]

/-- An identifier is read from its text. -/
theorem parse_toText (u : Uid) : parse u.toText = .ok u := by
  have digits : ∀ c ∈ hexFixed 32 u.bits.toNat, IsHexDigit c :=
    fun c h => isHexDigit_of_mem_hexFixed h
  have noU : 'u' ∉ grouped (hexFixed 32 u.bits.toNat) := by
    intro h
    rcases mem_grouped h with h | h
    · cases h
    · exact ne_of_isHexDigit (digits _ h) (by simp) rfl
  have noBrace : ∀ c ∈ grouped (hexFixed 32 u.bits.toNat), isBrace c = false := by
    intro c h
    rcases mem_grouped h with rfl | h
    · rfl
    · obtain ⟨d, rfl⟩ := digits c h
      exact (hexDigit_told d).2.1
  have bare : undecorated u.toText = hexFixed 32 u.bits.toNat := by
    have urn : "urn:".toList = 'u' :: "rn:".toList := rfl
    have uuid : "uuid:".toList = 'u' :: "uid:".toList := rfl
    have text : u.toText.toList = grouped (hexFixed 32 u.bits.toNat) := String.toList_ofList
    rw [undecorated, urn, uuid, text, withoutAll_of_not_mem noU, withoutAll_of_not_mem noU,
      stripWith_of_none noBrace, filter_grouped digits]
  have length := length_hexFixed 32 u.bits.toNat
  have nonempty : hexFixed 32 u.bits.toNat ≠ [] := by
    intro h
    rw [h] at length
    cases length
  have value : digitsValue 0 (hexFixed 32 u.bits.toNat) = u.bits.toNat := by
    rw [digitsValue_hexFixed, Nat.mul_zero, Nat.zero_add]
    exact Nat.mod_eq_of_lt u.bits.isLt
  rw [parse, bare]
  simp [length, hexNumeral?_of_digits digits nonempty, value]

end Uid

/-! ## Words -/

/-- A vocabulary whose members are told apart by their names and by their texts. -/
class LawfulVocabulary (α : Type) [Vocabulary α] : Prop where
  find_name (a : α) :
    (Vocabulary.members : List α).find? (fun b => Vocabulary.name b == Vocabulary.name a) = some a
  find_text (a : α) : Vocabulary.find? (Vocabulary.text a) = some a

instance : LawfulVocabulary WorkflowStatus :=
  ⟨fun a => by cases a <;> rfl, fun a => by cases a <;> rfl⟩

instance : LawfulVocabulary TriggerKind :=
  ⟨fun a => by cases a <;> rfl, fun a => by cases a <;> rfl⟩

instance : LawfulVocabulary ActionKind :=
  ⟨fun a => by cases a <;> rfl, fun a => by cases a <;> rfl⟩

instance : LawfulVocabulary BranchSide :=
  ⟨fun a => by cases a <;> rfl, fun a => by cases a <;> rfl⟩

instance : LawfulVocabulary RunStatus :=
  ⟨fun a => by cases a <;> rfl, fun a => by cases a <;> rfl⟩

instance : LawfulVocabulary OutcomeStatus :=
  ⟨fun a => by cases a <;> rfl, fun a => by cases a <;> rfl⟩

instance : LawfulVocabulary AssignmentMethod :=
  ⟨fun a => by cases a <;> rfl, fun a => by cases a <;> rfl⟩

instance : LawfulVocabulary DeliveryStatus :=
  ⟨fun a => by cases a <;> rfl, fun a => by cases a <;> rfl⟩

instance : LawfulVocabulary Operator :=
  ⟨fun a => by cases a <;> rfl, fun a => by cases a <;> rfl⟩

section Words

variable {α : Type} [Vocabulary α]

/-- A word is a member of its vocabulary. -/
def Open.IsKnown (w : Open α) : Prop := ∃ a, w = .known a

/-- A word is read from its text as what it is: a foreign word is no member's text. -/
def Open.IsRead (w : Open α) : Prop := Open.ofText w.text = w

/-- The word that a text stands for has that text. -/
theorem Open.text_ofText (s : String) : (Open.ofText s : Open α).text = s := by
  rw [Open.ofText]
  cases named : (Vocabulary.find? s : Option α) with
  | none => rfl
  | some a =>
      rw [Vocabulary.find?] at named
      have same : (Vocabulary.text a == s) = true := (List.find?_eq_some_iff_append.mp named).1
      exact eq_of_beq same

variable [LawfulVocabulary α]

theorem Open.isRead_known (a : α) : (Open.known a).IsRead := by
  simp [Open.IsRead, Open.ofText, Open.text, LawfulVocabulary.find_text]

theorem ColumnWord.read_ofOpen (a : α) : (ColumnWord.ofOpen (.known a)).read = .ok a := by
  simp [ColumnWord.read, ColumnWord.ofOpen, LawfulVocabulary.find_name]

theorem ColumnWord.readOpen_ofOpen {w : Open α} (known : w.IsKnown) :
    (ColumnWord.ofOpen w).readOpen = .ok w := by
  obtain ⟨a, rfl⟩ := known
  rw [ColumnWord.readOpen, read_ofOpen]
  rfl

/-- Two members have one word in a column only if they are one. -/
theorem ColumnWord.ofOpen_eq_iff {w v : Open α} (hw : w.IsKnown) (hv : v.IsKnown) :
    ColumnWord.ofOpen w = ColumnWord.ofOpen v ↔ w = v := by
  refine ⟨fun same => ?_, fun same => same ▸ rfl⟩
  have read := readOpen_ofOpen hw
  rw [same, readOpen_ofOpen hv] at read
  exact (Except.ok.inj read).symm

end Words

/-! ## Documents -/

/-- A value is one that JSON can say: it holds no tuple and no decimal, no whole number that is
too long to be written out, and no record that names a field twice. -/
inductive Value.IsJson : Value → Prop where
  | null : IsJson .null
  | bool (b : Bool) : IsJson (.bool b)
  | int {n : Int} (short : n.natAbs < 10 ^ mostDigits) : IsJson (.int n)
  | float (x : Binary64) : IsJson (.float x)
  | text (s : String) : IsJson (.text s)
  | list {xs : List Value} (items : ∀ x ∈ xs, IsJson x) : IsJson (.list xs)
  | record {fs : Fields} (once : (fs.map Prod.fst).Nodup) (fields : ∀ f ∈ fs, IsJson f.2) :
      IsJson (.record fs)

namespace Value

theorem documentItems_of {xs : List Value} (kept : ∀ x ∈ xs, x.document = .ok x) :
    documentItems xs = .ok xs := by
  induction xs with
  | nil => rfl
  | cons x xs ih =>
      rw [documentItems, kept x List.mem_cons_self,
        ih fun y h => kept y (List.mem_cons_of_mem _ h)]
      rfl

theorem documentFields_of {fs : Fields} (kept : ∀ f ∈ fs, f.2.document = .ok f.2) :
    documentFields fs = .ok fs := by
  induction fs with
  | nil => rfl
  | cons f fs ih =>
      rw [documentFields, kept f List.mem_cons_self,
        ih fun y h => kept y (List.mem_cons_of_mem _ h)]
      rfl

/-- A document column keeps what JSON can say as it is. -/
theorem document_of_json {v : Value} (json : v.IsJson) : v.document = .ok v := by
  induction json with
  | null | bool | float | text => rfl
  | int short => rw [document, if_pos (isShort_iff.mpr short)]
  | list _ ih => rw [document, documentItems_of ih]; rfl
  | record _ _ ih => rw [document, documentFields_of ih]; rfl

theorem exists_of_documentItems {xs ys : List Value} (kept : documentItems xs = .ok ys) :
    ∀ x ∈ xs, ∃ y, x.document = .ok y := by
  induction xs generalizing ys with
  | nil => exact List.forall_mem_nil _
  | cons x xs ih =>
      rw [documentItems] at kept
      cases first : x.document with
      | error f => rw [first] at kept; cases kept
      | ok y =>
          cases rest : documentItems xs with
          | error f => rw [first, rest] at kept; cases kept
          | ok zs => exact List.forall_mem_cons.mpr ⟨⟨y, first⟩, ih rest⟩

theorem exists_of_documentFields {fs gs : Fields} (kept : documentFields fs = .ok gs) :
    ∀ f ∈ fs, ∃ w, f.2.document = .ok w := by
  induction fs generalizing gs with
  | nil => exact List.forall_mem_nil _
  | cons f fs ih =>
      rw [documentFields] at kept
      cases first : f.2.document with
      | error e => rw [first] at kept; cases kept
      | ok w =>
          cases rest : documentFields fs with
          | error e => rw [first, rest] at kept; cases kept
          | ok hs => exact List.forall_mem_cons.mpr ⟨⟨w, first⟩, ih rest⟩

/-- No document column keeps a value that holds a whole number too long to be written out. -/
theorem HoldsLong.undocumented {v : Value} (long : v.HoldsLong) : ¬ ∃ w, v.document = .ok w := by
  induction long with
  | @int n long =>
      rw [document, if_neg (mt isShort_iff.mp (Nat.not_lt.mpr long))]
      exact nofun
  | @item xs x mem _ ih | @part xs x mem _ ih =>
      rw [document]
      cases kept : documentItems xs with
      | error f => exact nofun
      | ok ys => exact absurd (exists_of_documentItems kept x mem) ih
  | @field fs f mem _ ih =>
      rw [document]
      cases kept : documentFields fs with
      | error e => exact nofun
      | ok gs => exact absurd (exists_of_documentFields kept f mem) ih

theorem set_of_fresh {fs : Fields} {name : String} {v : Value} (fresh : name ∉ fs.map Prod.fst) :
    fs.set name v = fs ++ [(name, v)] := by
  induction fs with
  | nil => rfl
  | cons f fs ih =>
      simp only [List.map_cons, List.mem_cons, not_or] at fresh
      rw [Fields.set, if_neg (Ne.symm fresh.1), ih fresh.2, List.cons_append]

theorem documentPairs_of {before fs : Fields} (once : ((before ++ fs).map Prod.fst).Nodup)
    (fields : ∀ f ∈ fs, f.2.IsJson) :
    documentPairs before (fs.map fun f => (.text f.1, f.2)) = .ok (before ++ fs) := by
  induction fs generalizing before with
  | nil => simp [documentPairs]
  | cons f fs ih =>
      have fresh : f.1 ∉ before.map Prod.fst := by
        rw [List.map_append, List.nodup_append] at once
        exact fun h => once.2.2 _ h _ (by simp) rfl
      have tail := @ih (before ++ [f]) (by simpa using once)
        fun g h => fields g (List.mem_cons_of_mem _ h)
      simp only [List.map_cons, documentPairs, documentKey,
        document_of_json (fields f List.mem_cons_self)]
      simpa [set_of_fresh fresh, bind, Except.bind] using tail

/-- The fields of a record in JSON become the document that they are. -/
theorem documentPairs_nil {fs : Fields} (json : (record fs).IsJson) :
    documentPairs [] (fs.map fun f => (.text f.1, f.2)) = .ok fs := by
  cases json with
  | record once fields => exact @documentPairs_of [] fs once fields

/-! ### Comparing documents -/

theorem isSignaling_of_json {v : Value} (json : v.IsJson) : v.isSignaling = false := by
  cases json <;> rfl

theorem exists_equalNumbers {v w : Value} (hv : v.IsJson) (hw : w.IsJson) :
    ∃ b, (if v.isNumber && w.isNumber then equalNumbers v w else .ok false) = .ok b := by
  split
  · exact ⟨_, by rw [equalNumbers, isSignaling_of_json hv, isSignaling_of_json hw]; rfl⟩
  · exact ⟨false, rfl⟩

theorem exists_equalItems {xs ys : List Value}
    (each : ∀ x ∈ xs, ∀ y : Value, y.IsJson → ∃ b, equal x y = .ok b)
    (json : ∀ y ∈ ys, y.IsJson) : ∃ b, equalItems xs ys = .ok b := by
  induction xs generalizing ys with
  | nil => cases ys <;> exact ⟨_, rfl⟩
  | cons x xs ih =>
      cases ys with
      | nil => exact ⟨_, rfl⟩
      | cons y ys =>
          obtain ⟨b, head⟩ := each x List.mem_cons_self y (json y List.mem_cons_self)
          have tail := ih (fun z h => each z (List.mem_cons_of_mem _ h))
            fun z h => json z (List.mem_cons_of_mem _ h)
          rw [equalItems, head]
          cases b with
          | true => exact tail
          | false => exact ⟨false, rfl⟩

theorem exists_equalFields {fs gs : Fields}
    (each : ∀ f ∈ fs, ∀ y : Value, y.IsJson → ∃ b, equal f.2 y = .ok b)
    (json : ∀ g ∈ gs, g.2.IsJson) : ∃ b, equalFields fs gs = .ok b := by
  induction fs with
  | nil => exact ⟨_, rfl⟩
  | cons f fs ih =>
      have tail := ih fun z h => each z (List.mem_cons_of_mem _ h)
      rw [equalFields]
      cases found : gs.lookup f.1 with
      | none => exact ⟨false, rfl⟩
      | some w =>
          obtain ⟨b, head⟩ :=
            each f List.mem_cons_self w (json _ (Fields.mem_of_find? found))
          simp only [head]
          cases b with
          | true => exact tail
          | false => exact ⟨false, rfl⟩

/-- Two values of JSON are equal or not; their comparison never fails. -/
theorem exists_equal {v w : Value} (hv : v.IsJson) (hw : w.IsJson) :
    ∃ b, equal v w = .ok b := by
  induction hv generalizing w with
  | list items ih =>
      cases hw with
      | list others =>
          rw [equal]
          split
          · exact exists_equalItems (fun x h y hy => ih x h hy) others
          · exact ⟨false, rfl⟩
      | _ => exact ⟨false, by simp [equal, isNumber]⟩
  | record once fields ih =>
      cases hw with
      | record _ others =>
          rw [equal]
          split
          · exact exists_equalFields (fun f h y hy => ih f h hy) others
          · exact ⟨false, rfl⟩
      | _ => exact ⟨false, by simp [equal, isNumber]⟩
  | null | text => cases hw <;> simp [equal, isNumber]
  | bool b =>
      obtain ⟨c, h⟩ := exists_equalNumbers (.bool b) hw
      exact ⟨c, by cases hw <;> simpa [equal] using h⟩
  | int short =>
      obtain ⟨c, h⟩ := exists_equalNumbers (.int short) hw
      exact ⟨c, by cases hw <;> simpa [equal] using h⟩
  | float x =>
      obtain ⟨c, h⟩ := exists_equalNumbers (.float x) hw
      exact ⟨c, by cases hw <;> simpa [equal] using h⟩

end Value

/-! ## Conditions -/

/-- A list whose items are records, read record by record. -/
theorem fields?_of_records {α : Type} (toFields : α → Fields) (xs : List α) :
    (((Value.list (xs.map fun x => .record (toFields x))).items?.getD []).filterMap Value.fields?)
      = xs.map toFields := by
  simp [Value.items?, List.filterMap_map, Function.comp_def, Value.fields?]

/-- A condition that a document holds as it is. -/
structure Condition.Fits (c : Condition) : Prop where
  operator : c.operator.IsRead
  value : c.value.IsJson

namespace Condition

variable {cs : List Condition}

theorem json_listToValue (fit : ∀ c ∈ cs, c.Fits) : (listToValue cs).IsJson := by
  refine .list fun x h => ?_
  obtain ⟨c, hc, rfl⟩ := List.mem_map.mp h
  refine .record (by simp [toFields]) fun f hf => ?_
  simp only [toFields, List.mem_cons, List.not_mem_nil, or_false] at hf
  rcases hf with rfl | rfl | rfl
  · exact .text _
  · exact .text _
  · exact (fit c hc).value

theorem toDocument_of_fits (fit : ∀ c ∈ cs, c.Fits) : toDocument cs = .ok (listToValue cs) :=
  Value.document_of_json (json_listToValue fit)

theorem ofFields_toFields {c : Condition} (operator : c.operator.IsRead) :
    ofFields c.toFields = .ok c := by
  rw [Open.IsRead] at operator
  obtain ⟨field, word, value⟩ := c
  simp [ofFields, toFields, storedText, Fields.get, Fields.find?, List.lookup_cons, operator,
    bind, Except.bind, pure, Except.pure]

/-- Conditions are read from the document that they are written to. -/
theorem ofDocument_listToValue (fit : ∀ c ∈ cs, c.Fits) :
    ofDocument (listToValue cs) = .ok cs := by
  rw [ofDocument, listToValue, fields?_of_records]
  exact mapM_read_back fun c h => ofFields_toFields (fit c h).operator

end Condition

/-! ## Outcomes -/

/-- An outcome that a document holds as it is. -/
structure ActionOutcome.Fits (o : ActionOutcome) : Prop where
  kind : o.kind.IsRead
  result : o.result.IsJson
  error : o.error.IsJson

namespace ActionOutcome

theorem optionalField_eq (key : String) (v : Value) :
    optionalField key v = [] ∧ v = .null ∨ optionalField key v = [(key, v)] := by
  cases v with
  | null => exact .inl ⟨rfl, rfl⟩
  | _ => exact .inr rfl

theorem optionalField_sublist (key : String) (v : Value) :
    (optionalField key v).Sublist [(key, v)] := by
  rcases optionalField_eq key v with ⟨h, _⟩ | h
  · rw [h]
    exact List.nil_sublist _
  · rw [h]

/-- An outcome is read from its stored record, its kind as the word that the kind's text
stands for. -/
theorem ofFields_toFields_eq (o : ActionOutcome) :
    ofFields o.toFields = .ok { o with kind := .ofText o.kind.text } := by
  obtain ⟨id, word, status, result, error⟩ := o
  have named : Vocabulary.find? (Vocabulary.text status) = some status :=
    LawfulVocabulary.find_text status
  rcases optionalField_eq "result" result with ⟨hr, rfl⟩ | hr <;>
    rcases optionalField_eq "error" error with ⟨he, rfl⟩ | he <;>
    simp_all [ofFields, toFields, requiredField, readUid, readStatus, Fields.get, Fields.find?,
      List.lookup_cons, List.lookup_nil, Uid.parse_toText, bind, Except.bind, pure, Except.pure]

theorem ofFields_toFields {o : ActionOutcome} (fits : o.Fits) : ofFields o.toFields = .ok o := by
  have kind : Open.ofText o.kind.text = o.kind := fits.kind
  rw [ofFields_toFields_eq, kind]

/-- Nothing is lost in the stored record of an outcome: an outcome of any kind that a text
tells is read back as it is, and what is read from a stored record is stored as that record. -/
theorem stored_outcomes_lossless :
    (∀ (id : Uid) (word : String) (status : OutcomeStatus) (result : Value)
        (error : Option String),
      ofFields (toFields ⟨id, .ofText word, status, result, Value.ofText? error⟩)
        = .ok ⟨id, .ofText word, status, result, Value.ofText? error⟩) ∧
    ∀ o : ActionOutcome, ∃ back, ofFields o.toFields = .ok back ∧ back.toFields = o.toFields := by
  constructor
  · intro id word status result error
    rw [ofFields_toFields_eq]
    simp only [Open.text_ofText]
  · intro o
    refine ⟨_, ofFields_toFields_eq o, ?_⟩
    simp only [toFields, Open.text_ofText]

theorem json_toFields {o : ActionOutcome} (fits : o.Fits) : (Value.record o.toFields).IsJson := by
  -- the fields are some of these five
  have sub : o.toFields.Sublist [("actionId", .text o.actionId.toText),
      ("actionType", .text o.kind.text), ("status", .text (Vocabulary.text o.status)),
      ("result", o.result), ("error", o.error)] :=
    ((List.Sublist.refl _).append (optionalField_sublist _ _)).append (optionalField_sublist _ _)
  refine .record ((sub.map Prod.fst).nodup (by simp)) fun f hf => ?_
  have here := sub.subset hf
  simp only [List.mem_cons, List.not_mem_nil, or_false] at here
  rcases here with rfl | rfl | rfl | rfl | rfl
  · exact .text _
  · exact .text _
  · exact .text _
  · exact fits.result
  · exact fits.error

end ActionOutcome

namespace ExecutionRow

variable {os : List ActionOutcome}

theorem json_outcomesValue (fit : ∀ o ∈ os, o.Fits) : (outcomesValue os).IsJson := by
  refine .list fun x h => ?_
  obtain ⟨o, ho, rfl⟩ := List.mem_map.mp h
  exact ActionOutcome.json_toFields (fit o ho)

/-- Outcomes are read from the document that they are written to. -/
theorem readOutcomes_outcomesValue (fit : ∀ o ∈ os, o.Fits) :
    readOutcomes (outcomesValue os) = .ok os := by
  rw [readOutcomes, outcomesValue, fields?_of_records]
  exact mapM_read_back fun o h => ActionOutcome.ofFields_toFields (fit o h)

end ExecutionRow
end RecordFlow
