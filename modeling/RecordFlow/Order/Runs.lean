/-
# Runs — sorting by the runs that a list has already

A list is cut into runs, stretches that go up or strictly down; short runs are
made longer by inserting what follows them, and neighbouring runs are merged
two at a time, in an order that keeps their lengths balanced.  A merge goes
item by item until one run wins often in a row, and then leaps ahead.

Under a strict weak order this is a stable sort like any other.  Under a
relation that is none, as where some items stand in no relation, every
comparison counts that is made and every one that is not: which pairs are
compared is part of the meaning.
-/

namespace RecordFlow.Runs

variable {α : Type}

/-! ## Searching -/

/-- The place between `lo` and `hi` up to which items are before, found by halving. -/
def bisect (before : α → Bool) (xs : Array α) (lo hi : Nat) : Nat :=
  if lo < hi then
    let middle := lo + (hi - lo) / 2
    if (xs[middle]?).all before then bisect before xs (middle + 1) hi
    else bisect before xs lo middle
  else lo
termination_by hi - lo

/-- The last distance that was good and the first that was not, among one, three, seven and so
on; the limit stands for a distance that is not less. -/
def stretch (good : Nat → Bool) (limit last next : Nat) : Nat × Nat :=
  if next < limit then
    if good next then stretch good limit next (2 * next + 1) else (last, next)
  else (last, limit)
termination_by limit - next

/-- The place up to which items are before, looked for around a place where it may be. -/
def leap (before : α → Bool) (xs : Array α) (hint : Nat) : Nat :=
  let isBefore := fun (i : Nat) => (xs[i]?).any before
  if isBefore hint then
    let (last, next) := stretch (fun d => isBefore (hint + d)) (xs.size - hint) 0 1
    bisect before xs (hint + last + 1) (hint + next)
  else
    let (last, next) := stretch (fun d => !isBefore (hint - d)) (hint + 1) 0 1
    bisect before xs (hint + 1 - next) (hint - last)

/-! ## Merging -/

variable (lt : α → α → Bool)

/-- A number of wins in a row from which a merge goes on leaping. -/
def manyWins : Nat := 7

/-- How a merge goes on: item by item, with the wins in a row of either run, or by leaps. -/
inductive Pace where
  | single (left right : Nat)
  | leaping

/-- The pace after an item, given the wins in a row and how many of them make it leap. -/
def Pace.after (eager left right : Nat) : Pace :=
  if eager ≤ left || eager ≤ right then leaping else single left right

/-- How eager a merge is to leap after one more round of leaping. -/
def moreEager (eager : Nat) : Nat := if 1 < eager then eager - 1 else eager

/-- Merges two runs from the front, the left one being the shorter; `done` is what has been
merged, the last item first.  With the merged list comes how many wins in a row make the next
merge leap. -/
def mergeFront (fuel : Nat) (pace : Pace) (eager : Nat) (left right done : List α) :
    List α × Nat :=
  match fuel, left, right with
  | fuel + 1, x :: xs, y :: ys =>
    match pace with
    | .single ls rs =>
      if lt y x then
        if ys.isEmpty then (done.reverse ++ y :: left, eager)
        else mergeFront fuel (Pace.after eager 0 (rs + 1)) eager left ys (y :: done)
      else
        match xs with
        | [_] => (done.reverse ++ x :: right ++ xs, eager)
        | _ => mergeFront fuel (Pace.after eager (ls + 1) 0) eager xs right (x :: done)
    | .leaping =>
      let k := leap (fun z => !lt y z) left.toArray 0
      let done := (left.take k).reverse ++ done
      match left.drop k with
      | [] => (done.reverse ++ right, eager)
      | [z] => (done.reverse ++ right ++ [z], eager)
      | z :: zs =>
        let done := y :: done
        let m := leap (fun w => lt w z) ys.toArray 0
        let done := (ys.take m).reverse ++ done
        match ys.drop m, zs with
        | [], _ => (done.reverse ++ z :: zs, eager)
        | rest, [_] => (done.reverse ++ z :: rest ++ zs, eager)
        | rest, _ =>
          if manyWins ≤ k || manyWins ≤ m then
            mergeFront fuel .leaping (moreEager eager) zs rest (z :: done)
          else mergeFront fuel (.single 0 0) (eager + 1) zs rest (z :: done)
  | _, left, right => (done.reverse ++ left ++ right, eager)

/-- Merges two runs from the back, the right one being the shorter.  The runs are given with
the last item first; `done` is what has been merged. -/
def mergeBack (fuel : Nat) (pace : Pace) (eager : Nat) (left right done : List α) :
    List α × Nat :=
  match fuel, left, right with
  | fuel + 1, x :: xs, y :: ys =>
    match pace with
    | .single ls rs =>
      if lt y x then
        if xs.isEmpty then (right.reverse ++ x :: done, eager)
        else mergeBack fuel (Pace.after eager (ls + 1) 0) eager xs right (x :: done)
      else
        match ys with
        | [_] => (ys ++ left.reverse ++ y :: done, eager)
        | _ => mergeBack fuel (Pace.after eager 0 (rs + 1)) eager left ys (y :: done)
    | .leaping =>
      let k := left.length - leap (fun z => !lt y z) left.reverse.toArray (left.length - 1)
      let done := (left.take k).reverse ++ done
      match left.drop k, ys with
      | [], _ => (right.reverse ++ done, eager)
      | rest, [_] => (ys ++ rest.reverse ++ y :: done, eager)
      | z :: zs, _ =>
        let done := y :: done
        let m := ys.length - leap (fun w => lt w z) ys.reverse.toArray (ys.length - 1)
        let done := (ys.take m).reverse ++ done
        match ys.drop m with
        | [] => ((z :: zs).reverse ++ done, eager)
        | [w] => (w :: (z :: zs).reverse ++ done, eager)
        | rest =>
          if zs.isEmpty then (rest.reverse ++ z :: done, eager)
          else if manyWins ≤ k || manyWins ≤ m then
            mergeBack fuel .leaping (moreEager eager) zs rest (z :: done)
          else mergeBack fuel (.single 0 0) (eager + 1) zs rest (z :: done)
  | _, left, right => (left.reverse ++ right.reverse ++ done, eager)

/-- Merges two runs of which the left one stood in front of the right one. -/
def merge (eager : Nat) (left right : List α) : List α × Nat :=
  match right with
  | [] => (left, eager)
  | y :: _ =>
    let k := leap (fun z => !lt y z) left.toArray 0
    let before := left.take k
    let left := left.drop k
    match left.getLast? with
    | none => (before ++ right, eager)
    | some x =>
      let m := leap (fun w => lt w x) right.toArray (right.length - 1)
      let after := right.drop m
      let right := right.take m
      let fuel := left.length + right.length
      let (merged, eager) := match right, left.reverse with
        | [], _ => (left, eager)
        | _, [] => (right, eager)
        | y :: ys, x :: xs =>
          if left.length ≤ right.length then
            if ys.isEmpty then (y :: left, eager)
            else if xs.isEmpty then (y :: ys ++ left, eager)
            else mergeFront lt fuel (.single 0 0) eager left ys [y]
          else if ys.isEmpty then (y :: xs.reverse ++ [x], eager)
          else mergeBack lt fuel (.single 0 0) eager xs (y :: ys).reverse [x]
      (before ++ merged ++ after, eager)

/-! ## Cutting into runs -/

/-- How many items go on a run that goes up. -/
def ascent (x : α) : List α → Nat
  | [] => 0
  | y :: ys => if lt y x then 0 else ascent y ys + 1

/-- How many items go on a run that goes strictly down. -/
def descent (x : α) : List α → Nat
  | [] => 0
  | y :: ys => if lt y x then descent y ys + 1 else 0

/-- The run in front of a list, going up, and the rest. -/
def firstRun : List α → List α × List α
  | x :: y :: rest =>
    if lt y x then
      let n := descent lt y rest
      (((x :: y :: rest).take (n + 2)).reverse, rest.drop n)
    else
      let n := ascent lt y rest
      (x :: y :: rest.take n, rest.drop n)
  | xs => (xs, [])

/-- A run with an item inserted behind those that are not greater. -/
def insert (run : List α) (x : α) : List α :=
  let k := bisect (fun y => !lt x y) run.toArray 0 run.length
  run.take k ++ x :: run.drop k

/-- The least length of the runs of a list of the given length: the length's leading six bits,
and one more if another bit is set. -/
def leastLength (n : Nat) (rounded : Bool := false) : Nat :=
  if 64 ≤ n then leastLength (n / 2) (rounded || n % 2 = 1) else if rounded then n + 1 else n
termination_by n

/-- The run in front of a list, made as long as runs are to be, and the rest. -/
def nextRun (least : Nat) (xs : List α) : List α × List α :=
  let (run, rest) := firstRun lt xs
  let missing := least - run.length
  ((rest.take missing).foldl (insert lt) run, rest.drop missing)

/-! ## Balancing -/

/-- A run that waits to be merged: where it begins, and how deep the cut behind it lies. -/
structure Waiting (α : Type) where
  items : List α
  start : Nat
  depth : Nat := 0

/-- How deep the cut between two neighbouring runs lies when a list of `total` items is halved
again and again: the first halving that parts the middles of the runs. `a` and `b` are twice
the middles. -/
def cutDepth (total : Nat) (fuel : Nat) (a b : Nat) : Nat :=
  match fuel with
  | 0 => 0
  | fuel + 1 =>
    if total ≤ a then cutDepth total fuel (2 * (a - total)) (2 * (b - total)) + 1
    else if total ≤ b then 1
    else cutDepth total fuel (2 * a) (2 * b) + 1

/-- Two waiting runs as one. -/
def Waiting.join (eager : Nat) (left right : Waiting α) : Waiting α × Nat :=
  let (items, eager) := merge lt eager left.items right.items
  ({ left with items }, eager)

/-- Merges the last waiting runs while the cut between them lies deeper than the next one. -/
def settle (depth eager : Nat) : List (Waiting α) → List (Waiting α) × Nat
  | last :: previous :: more =>
    if depth < previous.depth then
      let (joined, eager) := Waiting.join lt eager previous last
      settle depth eager (joined :: more)
    else (last :: previous :: more, eager)
  | waiting => (waiting, eager)
termination_by waiting => waiting.length

/-- The waiting runs, the last one first, after one more run of the given length is known. -/
def announce (total length eager : Nat) : List (Waiting α) → List (Waiting α) × Nat
  | [] => ([], eager)
  | last :: more =>
    let a := 2 * last.start + last.items.length
    let depth := cutDepth total (total + 1) a (a + last.items.length + length)
    match settle lt depth eager (last :: more) with
    | (last :: more, eager) => ({ last with depth } :: more, eager)
    | ([], eager) => ([], eager)

/-- Cuts a list into waiting runs, merging on the way. -/
def cut (total least : Nat) (fuel start eager : Nat) (waiting : List (Waiting α))
    (xs : List α) : List (Waiting α) × Nat :=
  match fuel, xs with
  | fuel + 1, x :: rest =>
    let (run, rest) := nextRun lt least (x :: rest)
    let (waiting, eager) := announce lt total run.length eager waiting
    cut total least fuel (start + run.length) eager ({ items := run, start } :: waiting) rest
  | _, _ => (waiting, eager)

/-- Merges all waiting runs, of the last three the outer ones first with the shorter side. -/
def collapse (eager : Nat) : List (Waiting α) → List α
  | [] => []
  | [only] => only.items
  | [last, previous] => (merge lt eager previous.items last.items).1
  | last :: previous :: before :: more =>
    if before.items.length < last.items.length then
      let (joined, eager) := Waiting.join lt eager before previous
      collapse eager (last :: joined :: more)
    else
      let (joined, eager) := Waiting.join lt eager previous last
      collapse eager (joined :: before :: more)
termination_by waiting => waiting.length

/-- A list sorted by its runs. -/
def sort (xs : List α) : List α :=
  let total := xs.length
  let (waiting, eager) := cut lt total (leastLength total) total 0 manyWins [] xs
  collapse lt eager waiting

end RecordFlow.Runs
