/-
# Columns — what the columns of the relational store can hold

A member of a vocabulary is held by its name; a word that is no member is held
as it stands, and cannot be read back unless it is the name of a member.  A
whole number has 64 bits.  A time is what its clock shows.  A document holds
what JSON can say: tuples become lists, keys become texts; decimals cannot be
stored, nor whole numbers that are too long to be written out.
-/
import RecordFlow.Value.Pairs
import RecordFlow.Value.Text

namespace RecordFlow

/-! ## Words -/

/-- A word in a column for the members of a vocabulary. -/
structure ColumnWord (α : Type) where
  text : String
deriving DecidableEq, Repr

namespace ColumnWord

/-- The word by which a column holds a member, or a foreign word. -/
def ofOpen {α : Type} [Vocabulary α] : Open α → ColumnWord α
  | .known a => ⟨Vocabulary.name a⟩
  | .foreign s => ⟨s⟩

/-- The member that a word names. -/
def read {α : Type} [Vocabulary α] (w : ColumnWord α) : Except Failure α :=
  match (Vocabulary.members : List α).find? fun a => Vocabulary.name a == w.text with
  | some a => .ok a
  | none => .error (.unreadableWord w.text
      (String.ofList ((Vocabulary.title α).toList.map Char.toLower))
      ((Vocabulary.members : List α).map Vocabulary.name))

/-- The member that a word names, as an open word. -/
def readOpen {α : Type} [Vocabulary α] (w : ColumnWord α) : Except Failure (Open α) :=
  Open.known <$> w.read

end ColumnWord

/-! ## Numbers and times -/

namespace Column

/-- The greatest whole number that a column holds. -/
def greatest : Int := Int.pow 2 63 - 1

/-- The least whole number that a column holds. -/
def least : Int := -Int.pow 2 63

/-- A whole number as a column holds it. -/
def whole (n : Int) : Except Failure Int :=
  if least ≤ n ∧ n ≤ greatest then .ok n else .error .wholeBeyondColumn

/-- An optional whole number as a column holds it. -/
def whole? : Option Int → Except Failure (Option Int)
  | none => .ok none
  | some n => some <$> whole n

/-- A floating-point number as a column for whole numbers holds it: it stays one only where it
is no whole number strictly between the bounds. -/
def real (x : Binary64) : Amount :=
  match x.toInt? with
  | some n => if least < n ∧ n < greatest then .whole n else .real x
  | none => .real x

/-- An amount as a column for whole numbers holds it.  A NaN is as good as nothing. -/
def amount : Amount → Except Failure Amount
  | .whole n => .whole <$> whole n
  | .real .nan => .error .constraintBroken
  | .real x => .ok (real x)

/-- Lets a row go on to its columns; that a whole number is too large is told before what any
column says. -/
def checkBounds (ns : List Amount) : Except Failure Unit :=
  ns.forM fun
    | .whole n => (fun _ => ()) <$> whole n
    | .real _ => .ok ()

/-- The amount in a column that is greater by one; after the greatest whole number the column
goes on in floating point. -/
def succ : Amount → Amount
  | .whole n =>
    if n < greatest then .whole (n + 1) else real (.ofRatio false (greatest + 1).toNat 1)
  | .real x => real x.succ

/-- An optional amount as a column for whole numbers holds it. -/
def amount? : Option Amount → Except Failure (Option Amount)
  | none | some (.real .nan) => .ok none
  | some n => some <$> amount n

end Column

/-! ## Documents -/

/-- Floating-point numbers as keys of documents. -/
def FloatLayout.key : FloatLayout :=
  { FloatLayout.plain with infinity := "Infinity", minusInfinity := "-Infinity", nan := "NaN" }

namespace Value

/-- The text that a key becomes in a document. -/
def documentKey : Value → Except Failure String
  | text s => .ok s
  | null => .ok "null"
  | bool b => .ok (if b then "true" else "false")
  | int n => if isShort n then .ok (toString n) else .error .unstorable
  | float x => .ok (FloatLayout.key.write x)
  | _ => .error .unstorable

mutual

/-- A value as a document column keeps it. -/
def document : Value → Except Failure Value
  | list xs => list <$> documentItems xs
  | tuple xs => list <$> documentItems xs
  | record fs => record <$> documentFields fs
  | decimal _ => .error .unstorable
  | int n => if isShort n then .ok (int n) else .error .unstorable
  | v => .ok v

/-- Items as a document column keeps them. -/
def documentItems : List Value → Except Failure (List Value)
  | [] => .ok []
  | x :: xs => do return (← document x) :: (← documentItems xs)

/-- Fields as a document column keeps them. -/
def documentFields : List (String × Value) → Except Failure (List (String × Value))
  | [] => .ok []
  | (name, v) :: rest => do return (name, ← document v) :: (← documentFields rest)

end

/-- The fields that pairs become in a document; of keys with one text the last counts. -/
def documentPairs (before : Fields) : List (Value × Value) → Except Failure Fields
  | [] => .ok before
  | (k, v) :: rest => do
    let name ← k.documentKey
    let v ← v.document
    documentPairs (before.set name v) rest

end Value
end RecordFlow
