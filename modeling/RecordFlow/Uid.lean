/-
# Uid — 128-bit identifiers

An identifier is 128 bits, written as 32 hexadecimal digits in groups of
8-4-4-4-12.  Reading is lenient: it takes the identifier with or without
hyphens, braces and the usual prefixes, and the digits themselves are read as
any hexadecimal numeral is.
-/
import RecordFlow.Text.Quoted

namespace RecordFlow

/-- A 128-bit identifier. -/
structure Uid where
  bits : BitVec 128
deriving DecidableEq, Repr, Inhabited

/-- Why a text is no identifier. -/
inductive UidProblem where
  /-- Stripped of its decoration, the text does not have 32 characters. -/
  | length
  /-- The 32 characters are no hexadecimal numeral. -/
  | digits (stripped : String)
deriving DecidableEq, Repr

namespace Uid

/-! ## Writing -/

/-- The groups of a written identifier, with hyphens between them. -/
def grouped (ds : List Char) : List Char :=
  ds.take 8 ++ '-' :: (ds.drop 8).take 4 ++ '-' :: (ds.drop 12).take 4
    ++ '-' :: (ds.drop 16).take 4 ++ '-' :: ds.drop 20

/-- The written form of an identifier. -/
def toText (u : Uid) : String := String.ofList (grouped (Text.hexFixed 32 u.bits.toNat))

/-! ## Reading -/

/-- A text without the occurrences of a pattern, found from left to right; `skip` characters
of the last one are still to be passed over. -/
def withoutAll (pattern : List Char) (skip : Nat) : List Char → List Char
  | [] => []
  | c :: rest =>
    match skip with
    | k + 1 => withoutAll pattern k rest
    | 0 =>
      if pattern.isPrefixOf (c :: rest) then withoutAll pattern (pattern.length - 1) rest
      else c :: withoutAll pattern 0 rest

/-- Whether a character is one of the two braces. -/
def isBrace (c : Char) : Bool := c == '\x7b' || c == '\x7d'

/-- A text without prefixes, braces around it and hyphens. -/
def undecorated (s : String) : List Char :=
  let plain := withoutAll "uuid:".toList 0 (withoutAll "urn:".toList 0 s.toList)
  (Text.stripWith isBrace plain).filter (· != '-')

/-- The value of a hexadecimal digit; decimal digits may be of any script. -/
def hexValue? (c : Char) : Option Nat :=
  if 'a' ≤ c && c ≤ 'f' then some (c.toNat - 'a'.toNat + 10)
  else if 'A' ≤ c && c ≤ 'F' then some (c.toNat - 'A'.toNat + 10)
  else Text.digitValue? c

/-- The number written by hexadecimal digits that are the whole text, a single low line being
allowed between two of them; `value` is what the digits before have written. -/
def hexDigits? (value : Nat) : List Char → Option Nat
  | [] => none
  | [c] => (hexValue? c).map (16 * value + ·)
  | c :: '_' :: rest => (hexValue? c).bind fun d => hexDigits? (16 * value + d) rest
  | c :: rest => (hexValue? c).bind fun d => hexDigits? (16 * value + d) rest

/-- A text without a low line in front. -/
def withoutLowLine : List Char → List Char
  | '_' :: rest => rest
  | cs => cs

/-- The digits of a numeral without the mark of base sixteen: a zero of any script and the
letter x, after which a low line may stand. -/
def withoutBaseMark : List Char → List Char
  | zero :: x :: rest =>
    if Text.digitValue? zero = some 0 && (x == 'x' || x == 'X') then withoutLowLine rest
    else zero :: x :: rest
  | cs => cs

/-- A numeral without a plus sign. -/
def withoutPlus : List Char → List Char
  | '+' :: rest => rest
  | cs => cs

/-- The number that a hexadecimal numeral writes. -/
def hexNumeral? (cs : List Char) : Option Nat :=
  hexDigits? 0 (withoutBaseMark (withoutPlus (Text.stripWith Text.isMargin cs)))

/-- The identifier that a text writes. -/
def parse (s : String) : Except UidProblem Uid :=
  let cs := undecorated s
  if cs.length ≠ 32 then .error .length
  else match hexNumeral? cs with
    | some n => .ok ⟨BitVec.ofNat 128 n⟩
    | none => .error (.digits (String.ofList cs))

end Uid
end RecordFlow
