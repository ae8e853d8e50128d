/-
# The text of a value

There are two texts.  `shown` is the form of a value inside another value and
in messages: texts quoted, null and the truth values by name.  `stringify` is
the form in which a value appears in a rendered text and in comparisons of
texts: null is empty, the truth values are in lower case, and a whole
floating-point number drops its fraction.

A whole number is written out in decimal digits only while there are not too
many of them, whether it stands by itself or deep in a value; a value that
holds a longer one has no text.  Reading digits is bounded in the same way, so
that no such number comes out of JSON: it has to be computed.
-/
import RecordFlow.Value.Basic
import RecordFlow.Text.Quoted
import RecordFlow.Failure

namespace RecordFlow

/-- Floating-point numbers in texts: positional while the point lies within sixteen digits
and at most four zeros follow it; exponents are signed and have two digits or more. -/
def FloatLayout.plain : FloatLayout where
  leastPoint := -3
  greatestPoint := 16
  plus := "+"
  exponentWidth := 2
  infinity := "inf"
  minusInfinity := "-inf"
  nan := "nan"

/-- The text of a floating-point number. -/
def Binary64.toText (x : Binary64) : String := FloatLayout.plain.write x

namespace Value

/-! ## What can be written -/

/-- The most digits with which a whole number is written out. -/
def mostDigits : Nat := 4300

/-- Whether a whole number has few enough digits to be written out. -/
def isShort (n : Int) : Bool := (Digits.ofNat n.natAbs).length ≤ mostDigits

mutual

/-- Whether all whole numbers in a value can be written out. -/
def isWritable : Value → Bool
  | int n => isShort n
  | list xs => areWritable xs
  | tuple xs => areWritable xs
  | record fs => fieldsWritable fs
  | _ => true

/-- Whether all whole numbers in the items can be written out. -/
def areWritable : List Value → Bool
  | [] => true
  | x :: xs => isWritable x && areWritable xs

/-- Whether all whole numbers in the fields can be written out. -/
def fieldsWritable : List (String × Value) → Bool
  | [] => true
  | (_, v) :: rest => isWritable v && fieldsWritable rest

end

/-- A text that is made of a value, unless the value holds a number that is too long. -/
def written (v : Value) (text : String) : Except Failure String :=
  if v.isWritable then .ok text else .error .tooManyDigits

theorem areWritable_iff {xs : List Value} :
    areWritable xs = true ↔ ∀ x ∈ xs, x.isWritable = true := by
  induction xs with
  | nil => simp [areWritable]
  | cons x xs ih => simp [areWritable, ih]

theorem fieldsWritable_iff {fs : List (String × Value)} :
    fieldsWritable fs = true ↔ ∀ f ∈ fs, f.2.isWritable = true := by
  induction fs with
  | nil => simp [fieldsWritable]
  | cons f fs ih => simp [fieldsWritable, ih]

/-! ## The texts -/

mutual

/-- The characters of a value inside another value, however long its numbers are. -/
def spelled : Value → String
  | null => "None"
  | bool true => "True"
  | bool false => "False"
  | int n => toString n
  | float x => x.toText
  | decimal d => "Decimal('" ++ d.toText ++ "')"
  | text s => Text.quoted s
  | list xs => "[" ++ spelledItems xs ++ "]"
  | tuple [x] => "(" ++ spelled x ++ ",)"
  | tuple xs => "(" ++ spelledItems xs ++ ")"
  | record fs => "\x7b" ++ spelledFields fs ++ "\x7d"

/-- Items with commas between them. -/
def spelledItems : List Value → String
  | [] => ""
  | [x] => spelled x
  | x :: xs => spelled x ++ ", " ++ spelledItems xs

/-- Fields with commas between them. -/
def spelledFields : List (String × Value) → String
  | [] => ""
  | [(name, v)] => Text.quoted name ++ ": " ++ spelled v
  | (name, v) :: rest => Text.quoted name ++ ": " ++ spelled v ++ ", " ++ spelledFields rest

end

/-- The characters of a value by itself: a text and a decimal stand as they are. -/
def plainly : Value → String
  | text s => s
  | decimal d => d.toText
  | v => v.spelled

/-- The characters of a value in a rendered text. -/
def worded : Value → String
  | null => ""
  | bool true => "true"
  | bool false => "false"
  | float x =>
    match x.toInt? with
    | some n => toString n
    | none => x.toText
  | v => v.plainly

/-- A value as it stands inside another value. -/
def shown (v : Value) : Except Failure String := v.written v.spelled

/-- A value by itself: as `shown`, but a text and a decimal stand as they are. -/
def plainText (v : Value) : Except Failure String := v.written v.plainly

/-- A value as it appears in a rendered text. -/
def stringify (v : Value) : Except Failure String := v.written v.worded

@[simp] theorem plainText_text (s : String) : (text s).plainText = .ok s := rfl

end Value
end RecordFlow
