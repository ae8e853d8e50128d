/-
# Body text — a value as the body of a request

The compact JSON form of a value: fields in their order, nothing between the
parts but the punctuation.  What the form cannot say is said otherwise: NaN
and the infinities are null, a decimal is a text, a tuple is an array.  The
form is that of an encoder outside the library, of which it is assumed; a whole
number that is too long to be written out has none.
-/
import RecordFlow.Value.Text

namespace RecordFlow

/-- Floating-point numbers in bodies: positional from 10^-5 up to 10^16, exponents bare. -/
def FloatLayout.body : FloatLayout where
  leastPoint := -4
  greatestPoint := 16
  plus := ""
  exponentWidth := 1
  infinity := "null"
  minusInfinity := "null"
  nan := "null"

namespace Value

/-- The two lowest hexadecimal digits of a control character. -/
def controlDigits (n : Nat) : List Char := [Nat.digitChar (n / 16), Nat.digitChar (n % 16)]

/-- One character inside a JSON text. -/
def bodyChar (c : Char) : List Char :=
  if c == '"' || c == '\\' then ['\\', c]
  else if c == '\n' then ['\\', 'n']
  else if c == '\r' then ['\\', 'r']
  else if c == '\t' then ['\\', 't']
  else if c.toNat = 8 then ['\\', 'b']
  else if c.toNat = 12 then ['\\', 'f']
  else if c.toNat < 0x20 then ['\\', 'u', '0', '0'] ++ controlDigits c.toNat
  else [c]

/-- A text as a JSON text. -/
def bodyString (s : String) : String :=
  String.ofList ('"' :: s.toList.flatMap bodyChar ++ ['"'])

mutual

/-- The characters of a value in compact JSON, however long its numbers are. -/
def encoded : Value → String
  | null => "null"
  | bool true => "true"
  | bool false => "false"
  | int n => toString n
  | float x => FloatLayout.body.write x
  | decimal d => bodyString d.toText
  | text s => bodyString s
  | list xs => "[" ++ encodedItems xs ++ "]"
  | tuple xs => "[" ++ encodedItems xs ++ "]"
  | record fs => "\x7b" ++ encodedFields fs ++ "\x7d"

/-- Items with commas between them. -/
def encodedItems : List Value → String
  | [] => ""
  | [x] => encoded x
  | x :: xs => encoded x ++ "," ++ encodedItems xs

/-- Fields with commas between them. -/
def encodedFields : List (String × Value) → String
  | [] => ""
  | [(name, v)] => bodyString name ++ ":" ++ encoded v
  | (name, v) :: rest => bodyString name ++ ":" ++ encoded v ++ "," ++ encodedFields rest

end

/-- A value in compact JSON. -/
def body (v : Value) : Except Failure String := v.written v.encoded

end Value
end RecordFlow
