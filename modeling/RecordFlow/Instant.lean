/-
# Instant — points in time and lengths of time

A point in time is what a clock somewhere shows, as the number of microseconds
since the beginning of the year 1, up to the end of the year 9999, and how far
that clock is ahead of universal time.  Where that is not known, the clock is
taken to show universal time; such a point has no order among the others.  Days
are counted in the Gregorian calendar.
-/
import RecordFlow.Number.Amount

namespace RecordFlow

/-- A point in time. -/
structure Instant where
  /-- The microseconds that the clock shows. -/
  civil : Nat
  /-- How many microseconds the clock is ahead of universal time, where that is known. -/
  ahead : Option Int := some 0
deriving DecidableEq, Repr, Inhabited

namespace Instant

def microsPerSecond : Nat := 1000000
def microsPerDay : Nat := 86400 * microsPerSecond

/-- The number of days in the years 1 to 9999. -/
def dayCount : Nat := 3652059

/-- The first count of microseconds after the year 9999. -/
def limit : Nat := dayCount * microsPerDay

/-- The microseconds that a clock with universal time shows. -/
def universal (t : Instant) : Int := t.civil - t.ahead.getD 0

/-- Whether it is known how far the clock is ahead of universal time. -/
def isZoned (t : Instant) : Bool := t.ahead.isSome

/-- The same point by a clock with universal time. -/
def inUniversal (t : Instant) : Instant := ⟨t.universal.toNat, some 0⟩

/-- What the clock shows, without how far it is ahead. -/
def unzoned (t : Instant) : Instant := ⟨t.civil, none⟩

/-- The instant a signed number of microseconds away by the same clock, if it lies in the years
1 to 9999. -/
def shift? (t : Instant) (delta : Int) : Option Instant :=
  let m := (t.civil : Int) + delta
  if 0 ≤ m && m < limit then some { t with civil := m.toNat } else none

/-! ## Calendar -/

/-- Whether a year has a leap day. -/
def isLeap (year : Nat) : Bool := year % 4 == 0 && (year % 100 != 0 || year % 400 == 0)

/-- The lengths of the months of a year. -/
def monthLengths (year : Nat) : List Nat :=
  [31, if isLeap year then 29 else 28, 31, 30, 31, 30, 31, 31, 30, 31, 30, 31]

/-- The days before the first day of a year. -/
def daysBeforeYear (year : Nat) : Nat :=
  let y := year - 1
  y * 365 + y / 4 - y / 100 + y / 400

/-- The number of days before a date, counted from the first day of the year 1. -/
def dayNumber (year month day : Nat) : Nat :=
  daysBeforeYear year + ((monthLengths year).take (month - 1)).foldl Nat.add 0 + (day - 1)

/-- The year of a day: the day's four-hundredth part of an era gives it up to one. -/
def yearOf (days : Nat) : Nat :=
  let guess := days * 400 / 146097 + 1
  if days < daysBeforeYear guess then guess - 1
  else if daysBeforeYear (guess + 1) ≤ days then guess + 1
  else guess

/-- Month and day of the day with this number, counting from zero, in the rest of a year. -/
def monthAndDay : List Nat → (month rest : Nat) → Nat × Nat
  | [], month, rest => (month, rest + 1)
  | len :: more, month, rest =>
    if rest < len then (month, rest + 1) else monthAndDay more (month + 1) (rest - len)

/-! ## Text -/

/-- A number with at least `width` digits. -/
def padded (width n : Nat) : String :=
  let ds := Nat.toDigits 10 n
  String.ofList (List.replicate (width - ds.length) '0' ++ ds)

/-- The text of an instant by a clock with universal time, always with six digits of the
second's fraction. -/
def toText (t : Instant) : String :=
  let micros := t.universal.toNat
  let days := micros / microsPerDay
  let year := yearOf days
  let (month, day) := monthAndDay (monthLengths year) 1 (days - daysBeforeYear year)
  let rest := micros % microsPerDay
  let seconds := rest / microsPerSecond
  padded 4 year ++ "-" ++ padded 2 month ++ "-" ++ padded 2 day ++ "T"
    ++ padded 2 (seconds / 3600) ++ ":" ++ padded 2 (seconds / 60 % 60) ++ ":"
    ++ padded 2 (seconds % 60) ++ "." ++ padded 6 (rest % microsPerSecond) ++ "Z"

/-- The number that exactly these decimal digits write. -/
def number? (cs : List Char) : Option Nat :=
  if cs.isEmpty || !cs.all Char.isDigit then none
  else some (cs.foldl (fun n c => 10 * n + (c.toNat - '0'.toNat)) 0)

/-- The number that two digits write, zero where nothing is written. -/
def part? (cs : List Char) : Option Nat := if cs.isEmpty then some 0 else number? cs

/-- The microseconds of a written time of day: hours, minutes and seconds, the later ones only if
they are given, with colons or without, and a fraction of a second. -/
def timeOfDay? (cs : List Char) : Option Nat := do
  let clock := cs.takeWhile fun c => c != '.' && c != ','
  let fraction := (cs.drop (clock.length + 1)).take 6
  let digits := clock.filter (· != ':')
  let hours ← number? (digits.take 2)
  let minutes ← part? ((digits.drop 2).take 2)
  let seconds ← part? (digits.drop 4)
  let micros ← part? fraction
  return ((hours * 60 + minutes) * 60 + seconds) * microsPerSecond
    + micros * Nat.pow 10 (6 - fraction.length)

/-- The number of a written day, with hyphens or without. -/
def day? (cs : List Char) : Option Nat := do
  let digits := cs.filter (· != '-')
  let year ← number? (digits.take 4)
  let month ← number? ((digits.drop 4).take 2)
  let day ← number? (digits.drop 6)
  return dayNumber year month day

/-- Whether a character begins the offset of a written time. -/
def isOffsetSign (c : Char) : Bool := c == '+' || c == '-'

/-- The instant that a text writes: a day, after one more character a time of day, and, where it
is known, how far the clock is ahead of universal time. -/
def ofText? (s : String) : Option Instant := do
  let cs := s.toList
  let width := if cs[4]? = some '-' then 10 else 8
  let days ← day? (cs.take width)
  let rest := cs.drop (width + 1)
  let clock := rest.takeWhile fun c => !isOffsetSign c && c != 'Z'
  let time ← if clock.isEmpty then some 0 else timeOfDay? clock
  let civil := days * microsPerDay + time
  match rest.drop clock.length with
  | '+' :: o => return ⟨civil, some (← timeOfDay? o)⟩
  | '-' :: o => return ⟨civil, some (-(← timeOfDay? o))⟩
  | 'Z' :: _ => return ⟨civil, some 0⟩
  | _ => return ⟨civil, none⟩

/-! ## Lengths of time -/

/-- Why a number of days is no length of time. -/
inductive SpanProblem where
  | notANumber
  | infinite
  /-- More days than a length of time may have. -/
  | tooManyDays (days : Int)
  /-- More days than can be told. -/
  | beyondCounting
deriving DecidableEq, Repr

/-- The microseconds in a number of spans of so many microseconds each, to the nearest one, a
half to the even one.  The whole spans count exactly; the fraction of one is multiplied in
floating point. -/
def microsOf (perSpan : Nat) (negative : Bool) (units : Nat) : Int :=
  let whole := units / Binary64.one * perSpan
  let part := Binary64.roundUnits (units % Binary64.one * perSpan) 1
  Binary64.signed negative (whole + Binary64.divEven part Binary64.one)

/-- Microseconds as a length of time, which has a bounded number of days. -/
def checked (micros : Int) : Except SpanProblem Int :=
  let days := micros.fdiv microsPerDay
  if days < -Int.pow 2 31 || Int.pow 2 31 ≤ days then .error .beyondCounting
  else if days < -999999999 || 999999999 < days then .error (.tooManyDays days)
  else .ok micros

/-- The length of time, in microseconds, that a number of spans of so many microseconds is. -/
def spanOf (perSpan : Nat) : Amount → Except SpanProblem Int
  | .whole n => checked (n * perSpan)
  | .real .nan => .error .notANumber
  | .real (.infinite _) => .error .infinite
  | .real (.finite s u) => checked (microsOf perSpan s u)

/-- The length of time that a number of days is, in microseconds. -/
def spanOfDays (x : Binary64) : Except SpanProblem Int := spanOf microsPerDay (.real x)

/-- The length of time that a number of seconds is, in microseconds. -/
def spanOfSeconds (x : Amount) : Except SpanProblem Int := spanOf microsPerSecond x

end Instant
end RecordFlow
