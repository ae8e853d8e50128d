/-
# Decimal — decimal numbers that keep their written form

A decimal number is a sign, a coefficient and an exponent of ten, so that
`1.50` and `1.5` are different writings of one value.  Its text is the
scientific string of the General Decimal Arithmetic rules.
-/
import RecordFlow.Number.Binary64
import RecordFlow.Number.Shortest

namespace RecordFlow

/-- A decimal number. -/
inductive Decimal where
  | finite (negative : Bool) (coefficient : Nat) (exponent : Int)
  | infinite (negative : Bool)
  | nan (negative : Bool) (signaling : Bool) (payload : List Char)
deriving DecidableEq, Repr, Inhabited

namespace Decimal

/-- Whether the decimal is the kind of NaN that takes part in no operation. -/
def isSignaling : Decimal → Bool
  | .nan _ true _ => true
  | _ => false

/-- The floating-point number nearest to `± digits × 10^exponent`.  Far outside the range
of the format the answer is known without computing the power of ten. -/
def nearest (negative : Bool) (coefficient : Nat) (exponent : Int) : Binary64 :=
  let size : Int := (Digits.ofNat coefficient).length
  if coefficient = 0 then .finite negative 0
  else if 400 < size + exponent then .infinite negative
  else if size + exponent < -400 then .finite negative 0
  else if exponent < 0 then Binary64.ofRatio negative coefficient (Nat.pow 10 exponent.natAbs)
  else Binary64.ofRatio negative (coefficient * Nat.pow 10 exponent.natAbs) 1

/-- The floating-point number nearest to a decimal; a signaling NaN has none. -/
def toBinary64? : Decimal → Option Binary64
  | .finite s c e => some (nearest s c e)
  | .infinite s => some (.infinite s)
  | .nan _ signaling _ => if signaling then none else some .nan

/-! ## Text -/

/-- The sign of a text. -/
def signText (negative : Bool) : List Char := if negative then ['-'] else []

/-- The digits of a coefficient with a point `places` digits from the right. -/
def withPoint (digits : List Char) (places : Nat) : List Char :=
  if places = 0 then digits
  else
    let padded := List.replicate (places + 1 - digits.length) '0' ++ digits
    padded.take (padded.length - places) ++ '.' :: padded.drop (padded.length - places)

/-- The text of a finite decimal: positional when the exponent is not positive and the value
is not too small, with an exponent otherwise. -/
def finiteText (coefficient : Nat) (exponent : Int) : List Char :=
  let ds := Digits.ofNat coefficient
  let adjusted := exponent + ds.length - 1
  if exponent ≤ 0 && -6 ≤ adjusted then withPoint ds exponent.natAbs
  else
    let mantissa := match ds with
      | x :: y :: rest => x :: '.' :: y :: rest
      | ds => ds
    mantissa ++ 'E' :: (if adjusted < 0 then '-' else '+') :: Digits.ofNat adjusted.natAbs

/-- The text of a decimal. -/
def toText : Decimal → String
  | .finite s c e => String.ofList (signText s ++ finiteText c e)
  | .infinite s => String.ofList (signText s ++ "Infinity".toList)
  | .nan s signaling payload =>
    String.ofList (signText s ++ (if signaling then "sNaN" else "NaN").toList ++ payload)

end Decimal
end RecordFlow
