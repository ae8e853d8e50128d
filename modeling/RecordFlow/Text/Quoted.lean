/-
# Quoted text — a text as it stands inside a larger value

A quoted text stands between single quotes, or between double quotes when it
holds a single quote and no double one.  The backslash, the quote in use and
the hidden characters are escaped, the last by their number.
-/
import RecordFlow.Text.Classes

namespace RecordFlow.Text

/-- The digit for a value below sixteen. -/
def hexDigit (n : Nat) : Char := Nat.digitChar (n % 16)

/-- A number in hexadecimal with exactly `width` digits, the lowest ones. -/
def hexFixed : (width : Nat) → Nat → List Char
  | 0, _ => []
  | width + 1, n => hexFixed width (n / 16) ++ [hexDigit n]

/-- A hidden character by its number, with two, four or eight digits. -/
def numberEscape (c : Char) : List Char :=
  if c.toNat < 0x100 then '\\' :: 'x' :: hexFixed 2 c.toNat
  else if c.toNat < 0x10000 then '\\' :: 'u' :: hexFixed 4 c.toNat
  else '\\' :: 'U' :: hexFixed 8 c.toNat

/-- One character of a quoted text. -/
def quotedChar (quote c : Char) : List Char :=
  if c == quote || c == '\\' then ['\\', c]
  else if c == '\n' then ['\\', 'n']
  else if c == '\r' then ['\\', 'r']
  else if c == '\t' then ['\\', 't']
  else if isHidden c then numberEscape c
  else [c]

/-- The quote that a text is put between. -/
def chosenQuote (s : String) : Char :=
  if s.toList.contains '\'' && !s.toList.contains '"' then '"' else '\''

/-- A text between quotes, with what cannot stand there escaped. -/
def quoted (s : String) : String :=
  let quote := chosenQuote s
  String.ofList (quote :: s.toList.flatMap (quotedChar quote) ++ [quote])

end RecordFlow.Text
