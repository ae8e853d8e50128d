/-
# Numerals — reading numbers from text

A numeral is an optional sign, digits of any script with single low lines
between them, an optional fraction and an optional exponent, or the name of an
infinity or of a NaN.  Reading it gives the exact decimal that it writes; a
floating-point number is then the nearest one.
-/
import RecordFlow.Text.Classes
import RecordFlow.Number.Decimal

namespace RecordFlow.Numeral

/-- An optional sign in front of a text: whether it is a minus, and the rest. -/
def takeSign : List Char → Bool × List Char
  | '-' :: rest => (true, rest)
  | '+' :: rest => (false, rest)
  | rest => (false, rest)

/-- Digits of any script in front of a text and the rest, a single low line being allowed
between two digits. -/
def takeDigits : List Char → List Nat × List Char
  | [] => ([], [])
  | c :: rest =>
    match Text.digitValue? c with
    | none => ([], c :: rest)
    | some d =>
      match rest with
      | '_' :: next :: rest' =>
        match Text.digitValue? next with
        | some _ =>
          let (ds, tail) := takeDigits (next :: rest')
          (d :: ds, tail)
        | none => ([d], rest)
      | rest =>
        let (ds, tail) := takeDigits rest
        (d :: ds, tail)
termination_by cs => cs.length

/-- The number that decimal digits write. -/
def ofDigits (ds : List Nat) : Nat := ds.foldl (fun n d => 10 * n + d) 0

/-- An exponent that ends the text. -/
def exponent? (cs : List Char) : Option Int :=
  let (negative, rest) := takeSign cs
  match takeDigits rest with
  | ([], _) => none
  | (ds, []) => some (if negative then -(ofDigits ds : Int) else ofDigits ds)
  | _ => none

/-- Coefficient and exponent of an unsigned numeral that is the whole text. -/
def unsigned? (cs : List Char) : Option (Nat × Int) :=
  let (whole, rest) := takeDigits cs
  let (fraction, rest) := match rest with
    | '.' :: rest => takeDigits rest
    | rest => ([], rest)
  if whole.isEmpty && fraction.isEmpty then none
  else
    let coefficient := ofDigits (whole ++ fraction)
    let places : Int := fraction.length
    match rest with
    | [] => some (coefficient, -places)
    | c :: rest =>
      if c == 'e' || c == 'E' then (exponent? rest).map fun e => (coefficient, e - places) else none

/-- The ASCII lower-case form of a text. -/
def folded (cs : List Char) : String := String.ofList (cs.map Char.toLower)

/-- The floating-point number that a text writes. -/
def toBinary64? (s : String) : Option Binary64 :=
  let (negative, body) := takeSign (Text.stripWith Text.isMargin s.toList)
  let name := folded body
  if name = "inf" || name = "infinity" then some (.infinite negative)
  else if name = "nan" then some .nan
  else (unsigned? body).map fun (c, e) => Decimal.nearest negative c e

/-- The decimal that a text writes. -/
def toDecimal? (s : String) : Option Decimal :=
  let (negative, body) := takeSign (Text.stripWith Text.isMargin s.toList)
  let name := folded body
  let payload := fun (cs : List Char) => Digits.ofNat (ofDigits (takeDigits cs).1)
  if name = "inf" || name = "infinity" then some (.infinite negative)
  else if name.startsWith "nan" then
    some (.nan negative false (if body.length = 3 then [] else payload (body.drop 3)))
  else if name.startsWith "snan" then
    some (.nan negative true (if body.length = 4 then [] else payload (body.drop 4)))
  else (unsigned? body).map fun (c, e) => .finite negative c e

/-- The integer that a text writes in plain decimal digits. -/
def toInt? (s : String) : Option Int :=
  let (negative, body) := takeSign s.toList
  match takeDigits body with
  | ([], _) => none
  | (ds, []) => some (if negative then -(ofDigits ds : Int) else ofDigits ds)
  | _ => none

end RecordFlow.Numeral
