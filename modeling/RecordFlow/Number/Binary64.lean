/-
# Binary64 — floating-point numbers as exact values

A finite number is a sign and a whole count of units, one unit being 2^-1074,
the smallest positive number of the format.  Every finite number is then an
integer multiple of the same unit, so comparing two of them is comparing two
integers, and every operation is an exact integer computation followed by one
rounding to 53 significant bits, a half going to the even neighbour.
-/

namespace RecordFlow

/-- A floating-point number of the 64-bit binary format; `finite true 0` is minus zero. -/
inductive Binary64 where
  | finite (negative : Bool) (units : Nat)
  | infinite (negative : Bool)
  | nan
deriving DecidableEq, Repr, Inhabited

namespace Binary64

/-- How many units make one. -/
def one : Nat := Nat.pow 2 1074

/-- The first count of units that is too large for a finite number. -/
def limit : Nat := Nat.pow 2 2098

/-! ## Rounding -/

/-- A quotient to the nearest integer, a half to the even one. -/
def divEven (num den : Nat) : Nat :=
  let q := num / den
  let r := num % den
  if 2 * r < den then q else if den < 2 * r then q + 1 else q + q % 2

/-- How many low bits a quotient loses when so many significant ones are kept. -/
def lostBits (bits num den : Nat) : Nat := (num / den).log2 + 1 - bits

/-- A quotient rounded to so many significant bits. -/
def roundBits (bits num den : Nat) : Nat :=
  let shift := lostBits bits num den
  let place := Nat.pow 2 shift
  divEven num (den * place) * place

/-- A quotient rounded to 53 significant bits. -/
def roundUnits (num den : Nat) : Nat := roundBits 53 num den

/-- The number with this sign and count of units, infinite from the limit on. -/
def ofUnits (negative : Bool) (units : Nat) : Binary64 :=
  if units < limit then .finite negative units else .infinite negative

/-- The number nearest to `± num / den`. -/
def ofRatio (negative : Bool) (num den : Nat) : Binary64 :=
  ofUnits negative (roundUnits (num * one) den)

/-- A finite number, with no sign if it is zero. -/
def finite? : Binary64 → Option Binary64
  | .finite _ 0 => some (.finite false 0)
  | .finite s u => some (.finite s u)
  | _ => none

/-- The number nearest to an integer, unless the integer lies beyond all finite numbers. -/
def ofInt? (n : Int) : Option Binary64 := finite? (ofRatio (n < 0) n.natAbs 1)

/-- The product with a power of two. -/
def timesTwoPow (x : Binary64) (k : Nat) : Binary64 :=
  match x with
  | .finite s u => ofUnits s (roundUnits (u * Nat.pow 2 k) 1)
  | x => x

/-! ## Values and order -/

/-- The signed count of units. -/
def signed (negative : Bool) (units : Nat) : Int := if negative then -(units : Int) else units

/-- The number nearest to the one that is greater by one. -/
def succ : Binary64 → Binary64
  | .finite s u =>
    let next := signed s u + one
    ofUnits (next < 0) (roundUnits next.natAbs 1)
  | x => x

/-- The integer that a finite number is equal to, if there is one. -/
def toInt? : Binary64 → Option Int
  | .finite s u => if u % one = 0 then some (signed s (u / one)) else none
  | _ => none

/-- The order of the extended line; a NaN stands in no relation. -/
def le : Binary64 → Binary64 → Bool
  | .nan, _ | _, .nan => false
  | .infinite true, _ | _, .infinite false => true
  | .infinite false, _ | _, .infinite true => false
  | .finite s u, .finite t v => signed s u ≤ signed t v

/-- The strict order of the extended line. -/
def lt (x y : Binary64) : Bool := le x y && !le y x

/-- Whether a number counts as nothing: only the two zeros do. -/
def isZero : Binary64 → Bool
  | .finite _ 0 => true
  | _ => false

end Binary64
end RecordFlow
