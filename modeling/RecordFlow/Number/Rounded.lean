/-
# Rounded digits — a floating-point number to fifteen digits

Where a text has room for fifteen significant digits, the number is brought
between one and ten, half a unit of the last place is added, and the digits are
read off from the left; zeros at the end are left out.  All of this is done in
extended precision, one operation at a time.  So the nearer of two texts wins,
but where the number is as good as half way between them, the roundings on the
way decide.
-/
import RecordFlow.Number.Extended
import RecordFlow.Number.Shortest

namespace RecordFlow.Extended

/-- A scale multiplied by a power of ten as long as the number is not below the product, with the
exponent of ten that the scale stands for; as many steps at most as the fuel has. -/
def climb (x : Extended) (places : Nat) : (fuel : Nat) → Extended × Int → Extended × Int
  | 0, reached => reached
  | fuel + 1, (scale, exponent) =>
    let next := (powerOfTen places).mul scale
    if next ≤ x then climb x places fuel (next, exponent + places) else (scale, exponent)

/-- A number multiplied by a power of ten as long as it is below a bound, with the exponent of
ten that is left to it; as many steps at most as the fuel has. -/
def lift (bound : Extended) (places : Nat) : (fuel : Nat) → Extended × Int → Extended × Int
  | 0, reached => reached
  | fuel + 1, (x, exponent) =>
    if x < bound then lift bound places fuel (x.mul (powerOfTen places), exponent - places)
    else (x, exponent)

/-- A positive number of the 64-bit format brought between one and ten, and the exponent of ten
that this takes out of it.  Its powers of ten are between -324 and 308, so the steps suffice. -/
def normal (x : Extended) : Extended × Int :=
  let (scale, exponent) := climb x 1 12 (climb x 10 12 (climb x 100 12 (one, 0)))
  lift one 1 50 (lift (ofRatio 1 (Nat.pow 10 8)) 8 50 (x.div scale, exponent))

/-- Half a unit of the fifteenth place of a number between one and ten: the product of 5·10^-5
and 10^-10 in the 64-bit format. -/
def halfPlace : Extended :=
  let high := Binary64.roundUnits (5 * Binary64.one) (Nat.pow 10 5)
  let low := Binary64.roundUnits Binary64.one (Nat.pow 10 10)
  ofUnits (Binary64.roundUnits (high * low) Binary64.one)

/-- A number below ten with half a place added, again below ten. -/
def raised (x : Extended) (exponent : Int) : Extended × Int :=
  let y := x.add halfPlace
  if y < powerOfTen 1 then (y, exponent) else (y.mul (ofRatio 1 10), exponent + 1)

/-- So many digits of a number below ten, read off from the left. -/
def digits : (count : Nat) → Extended → List Char
  | 0, _ => []
  | count + 1, x => Nat.digitChar x.floor :: digits count (x.fraction.mul (powerOfTen 1))

end RecordFlow.Extended

namespace RecordFlow.Binary64

/-- A count of units rounded to fifteen significant digits. -/
def rounded (units : Nat) : Digits :=
  if units = 0 then ⟨['0'], 1⟩
  else
    let (x, exponent) := (Extended.ofUnits units).normal
    let (y, exponent) := x.raised exponent
    ⟨Digits.dropTrailingZeros (y.digits 15), exponent + 1⟩

end RecordFlow.Binary64
