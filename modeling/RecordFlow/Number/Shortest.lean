/-
# Shortest digits — the decimal text of a floating-point number

The digits printed for a number are the fewest that read back as the same
number, and of those the ones nearest to its value.  For one, two, … digits
the two neighbours of the value on that decimal grid are tried against the
interval of values that round to the number; seventeen digits always suffice.
How the digits are laid out is the choice of each text format, kept in one
record per format.
-/
import RecordFlow.Number.Binary64

namespace RecordFlow

/-! ## The digits -/

/-- Decimal digits `d₁d₂…` and a point: the value `0.d₁d₂… × 10^point`. -/
structure Digits where
  digits : List Char
  point : Int
deriving DecidableEq, Repr

namespace Digits

/-- The decimal digits of a natural number. -/
def ofNat (n : Nat) : List Char := Nat.toDigits 10 n

/-- A digit string without its trailing zeros. -/
def dropTrailingZeros (ds : List Char) : List Char :=
  (ds.reverse.dropWhile (· == '0')).reverse

end Digits

namespace Binary64

/-- The bits of the last place of a count of units: zero up to 2^53, then one more for
every doubling. -/
def lastPlace (units : Nat) : Nat := units.log2 - 52

/-- Whether `num / den` units round to the number with `units` units.  A quarter of the
last place is the measure, because the interval is narrower below a power of two. -/
def readsBack (units num den : Nat) : Bool :=
  let ulp := Nat.pow 2 (lastPlace units)
  let half := 2 * ulp
  let below := if units = Nat.pow 2 units.log2 && 0 < lastPlace units then ulp else half
  let even := units / ulp % 2 = 0
  let x := 4 * num
  let lo := (4 * units - below) * den
  let hi := (4 * units + half) * den
  if even then lo ≤ x && x ≤ hi else lo < x && x < hi

/-- The exponent of ten above a positive count of units. -/
def pointOf (units : Nat) : Int :=
  ((Digits.ofNat (units * Nat.pow 10 400 / one)).length : Int) - 400

/-- A count `k` of steps of `10^place`, in units, as a quotient. -/
def gridValue (place : Int) (k : Nat) : Nat × Nat :=
  let scale := Nat.pow 10 place.natAbs
  if place < 0 then (k * one, scale) else (k * one * scale, 1)

/-- The neighbour of the value on the grid of step `10^place` that reads back, the nearer
one when both do. -/
def onGrid? (units : Nat) (place : Int) : Option Nat :=
  let (num, den) := gridValue place 1
  let k := units * den / num
  let r := units * den % num
  let ok := fun j => readsBack units (gridValue place j).1 (gridValue place j).2
  match ok k, ok (k + 1) with
  | true, true => some (if 2 * r < num || (2 * r == num && k % 2 == 0) then k else k + 1)
  | true, false => some k
  | false, true => some (k + 1)
  | false, false => none

/-- The shortest digits found with `count`, `count + 1`, … digits, as many as the fuel has
steps. -/
def shortestFrom (units : Nat) (point : Int) : (fuel count : Nat) → Digits
  | 0, _ => ⟨['0'], 1⟩
  | fuel + 1, count =>
    match onGrid? units (point - count) with
    | some k =>
      let ds := Digits.ofNat k
      ⟨Digits.dropTrailingZeros ds, point - count + ds.length⟩
    | none => shortestFrom units point fuel (count + 1)

/-- The shortest digits of a count of units. -/
def shortest (units : Nat) : Digits :=
  if units = 0 then ⟨['0'], 1⟩ else shortestFrom units (pointOf units) 17 1

end Binary64

/-! ## The layout -/

/-- How a text format lays digits out. -/
structure FloatLayout where
  /-- The least point that is written positionally. -/
  leastPoint : Int
  /-- The greatest point that is written positionally. -/
  greatestPoint : Int
  /-- What stands between the digits and a positive exponent. -/
  plus : String
  /-- The least number of digits of an exponent. -/
  exponentWidth : Nat
  /-- What follows a digit that stands alone before an exponent. -/
  afterLone : String := ""
  /-- The texts of infinity and of NaN. -/
  infinity : String
  minusInfinity : String
  nan : String

namespace FloatLayout

/-- Digits with the point among, before or after them. -/
def positional (d : Digits) : List Char :=
  let len : Int := d.digits.length
  if d.point ≤ 0 then '0' :: '.' :: List.replicate d.point.natAbs '0' ++ d.digits
  else if len ≤ d.point then d.digits ++ List.replicate (d.point - len).toNat '0' ++ ['.', '0']
  else d.digits.take d.point.toNat ++ '.' :: d.digits.drop d.point.toNat

/-- Digits with an exponent. -/
def exponential (l : FloatLayout) (d : Digits) : List Char :=
  let e := d.point - 1
  let es := Digits.ofNat e.natAbs
  let mantissa := match d.digits with
    | [] => []
    | [x] => x :: l.afterLone.toList
    | x :: xs => x :: '.' :: xs
  mantissa ++ 'e' :: (if e < 0 then ['-'] else l.plus.toList)
    ++ List.replicate (l.exponentWidth - es.length) '0' ++ es

/-- The text of digits with a sign in this layout. -/
def writeDigits (l : FloatLayout) (negative : Bool) (d : Digits) : String :=
  let body := if l.leastPoint ≤ d.point && d.point ≤ l.greatestPoint then positional d
    else l.exponential d
  String.ofList (if negative then '-' :: body else body)

/-- The text of a floating-point number in this layout. -/
def write (l : FloatLayout) : Binary64 → String
  | .nan => l.nan
  | .infinite false => l.infinity
  | .infinite true => l.minusInfinity
  | .finite negative units => l.writeDigits negative (Binary64.shortest units)

end FloatLayout
end RecordFlow
