/-
# Extended — positive numbers with 64 significant bits

A number is a whole count of units, one unit being 2^-1200, so that even the
smallest positive number of the 64-bit format is exact here with bits to spare.
Every operation is an exact computation followed by one rounding to 64
significant bits, a half going to the even neighbour.
-/
import RecordFlow.Number.Binary64

namespace RecordFlow

/-- A number of extended precision, not negative. -/
structure Extended where
  units : Nat
deriving DecidableEq, Repr, Inhabited

namespace Extended

/-- How many units of this format make a unit of the 64-bit format. -/
def perUnit : Nat := Nat.pow 2 126

/-- The number one. -/
def one : Extended := ⟨Binary64.one * perUnit⟩

/-- A quotient of units rounded to 64 significant bits. -/
def round (num den : Nat) : Extended := ⟨Binary64.roundBits 64 num den⟩

/-- The value of a count of units of the 64-bit format. -/
def ofUnits (units : Nat) : Extended := ⟨units * perUnit⟩

/-- The number of the 64-bit format that is nearest to a quotient. -/
def ofRatio (num den : Nat) : Extended := ofUnits (Binary64.roundUnits (num * Binary64.one) den)

/-- The number of the 64-bit format that is nearest to a power of ten. -/
def powerOfTen (exponent : Nat) : Extended := ofRatio (Nat.pow 10 exponent) 1

instance : LE Extended := ⟨fun x y => x.units ≤ y.units⟩
instance : LT Extended := ⟨fun x y => x.units < y.units⟩

instance (x y : Extended) : Decidable (x ≤ y) := inferInstanceAs (Decidable (x.units ≤ y.units))
instance (x y : Extended) : Decidable (x < y) := inferInstanceAs (Decidable (x.units < y.units))

def add (x y : Extended) : Extended := round (x.units + y.units) 1
def mul (x y : Extended) : Extended := round (x.units * y.units) one.units
def div (x y : Extended) : Extended := round (x.units * one.units) y.units

/-- The whole number below. -/
def floor (x : Extended) : Nat := x.units / one.units

/-- What the whole number below leaves. -/
def fraction (x : Extended) : Extended := ⟨x.units % one.units⟩

end Extended
end RecordFlow
