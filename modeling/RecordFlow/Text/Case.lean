/-
# Letter case — the full mappings

Lower and upper case of a whole text.  A character may map to several
characters, and the capital sigma maps by its place in the word: at the end
of a word it becomes the final small sigma.
-/
import RecordFlow.Text.Ranges
import RecordFlow.Text.CaseTable

namespace RecordFlow.Text

/-- The shift of the first row that holds the code point. -/
def rowShift? (rows : List (Nat × Nat × Nat × Int)) (code : Nat) : Option Int :=
  (rows.find? fun r => r.1 ≤ code && code ≤ r.2.1 && (code - r.1) % r.2.2.1 == 0).map (·.2.2.2)

/-- A character moved by the shift of its row, if it has one. -/
def shifted (rows : List (Nat × Nat × Nat × Int)) (c : Char) : Char :=
  match rowShift? rows c.toNat with
  | some d => Char.ofNat (c.toNat + d).toNat
  | none => c

/-- Cased characters at which the search for the end of a word stops. -/
def isCased (c : Char) : Bool := inRanges casedRanges c.toNat

/-- Characters that the search for the end of a word looks past. -/
def isCaseIgnorable (c : Char) : Bool := inRanges ignorableRanges c.toNat

/-- Whether the nearest character that is not looked past is cased. -/
def nextIsCased (cs : List Char) : Bool :=
  match cs.dropWhile isCaseIgnorable with
  | [] => false
  | c :: _ => isCased c

/-- The small sigma that stands for a capital one between the two parts of its text,
the part before it being given backwards. -/
def smallSigma (before after : List Char) : Char :=
  if nextIsCased before && !nextIsCased after then 'ς' else 'σ'

/-- The lower-case form of one character that is not a capital sigma. -/
def lowerChar (c : Char) : List Char :=
  if c.toNat < 128 then [c.toLower]
  else if c == 'İ' then ['i', '\u0307']
  else [shifted lowerRows c]

/-- Lower case of the rest of a text whose beginning is given backwards. -/
def lowerFrom (before : List Char) : List Char → List Char
  | [] => []
  | c :: rest =>
    (if c == 'Σ' then [smallSigma before rest] else lowerChar c) ++ lowerFrom (c :: before) rest

/-- The lower-case form of a text. -/
def lower (s : String) : String := String.ofList (lowerFrom [] s.toList)

/-- The upper-case form of one character. -/
def upperChar (c : Char) : List Char :=
  if c.toNat < 128 then [c.toUpper]
  else match longUpper.find? (·.1 == c.toNat) with
    | some r => r.2.map Char.ofNat
    | none => [shifted upperRows c]

/-- The upper-case form of a text. -/
def upper (s : String) : String := String.ofList (s.toList.flatMap upperChar)

end RecordFlow.Text
