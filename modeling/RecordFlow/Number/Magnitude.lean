/-
# Magnitude — the exact place of a number on the extended line

A finite number of any of the three kinds is a whole number times a power of
ten.  Written with no zero at the end of the coefficient, that form is the
number's own, so numbers of different kinds are equal just when their forms
are, however large their exponents.
-/
import RecordFlow.Number.Decimal

namespace RecordFlow

/-- A point of the extended number line. -/
inductive Magnitude where
  /-- `coefficient × 10 ^ exponent`; the coefficient does not end with a zero. -/
  | finite (coefficient exponent : Int)
  | infinite (negative : Bool)
deriving DecidableEq, Repr

namespace Magnitude

/-- Coefficient and exponent without the zeros at the end of the coefficient. -/
def trimmed (coefficient : Nat) (exponent : Int) : Nat × Int :=
  if coefficient = 0 then (0, 0)
  else if coefficient % 10 = 0 then trimmed (coefficient / 10) (exponent + 1)
  else (coefficient, exponent)
termination_by coefficient
decreasing_by omega

/-- The place of `± coefficient × 10 ^ exponent`. -/
def ofScaled (negative : Bool) (coefficient : Nat) (exponent : Int) : Magnitude :=
  let (c, e) := trimmed coefficient exponent
  finite (if negative then -(c : Int) else c) e

/-- The place of a whole number. -/
def ofInt (n : Int) : Magnitude := ofScaled (n < 0) n.natAbs 0

/-- The place of a floating-point number; a NaN has none.  A unit is `5 ^ 1074 / 10 ^ 1074`. -/
def ofBinary64? : Binary64 → Option Magnitude
  | .infinite s => some (.infinite s)
  | .nan => none
  | .finite s u =>
    if u % Binary64.one = 0 then some (ofScaled s (u / Binary64.one) 0)
    else some (ofScaled s (u * Nat.pow 5 1074) (-1074))

/-- The place of a decimal; a NaN has none. -/
def ofDecimal? : Decimal → Option Magnitude
  | .infinite s => some (.infinite s)
  | .nan .. => none
  | .finite s c e => some (ofScaled s c e)

end Magnitude
end RecordFlow
