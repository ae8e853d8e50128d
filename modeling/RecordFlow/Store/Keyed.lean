/-
# Keyed lists — records by key, in the order of their first writing

The stores keep records in lists in which a key occurs once.  Writing a record
under a key that is there replaces the old one in its place; any other goes to
the end.
-/

namespace RecordFlow

namespace Keyed

/-- The record with a key. -/
def find? {κ α : Type} [DecidableEq κ] (key : α → κ) (k : κ) (xs : List α) : Option α :=
  xs.find? fun x => key x = k

/-- The list with a record written under its key. -/
def put {κ α : Type} [DecidableEq κ] (key : α → κ) (x : α) : List α → List α
  | [] => [x]
  | y :: ys => if key y = key x then x :: ys else y :: put key x ys

/-- The list with the record under a key changed. -/
def modify {κ α : Type} [DecidableEq κ] (key : α → κ) (k : κ) (f : α → α) (xs : List α) :
    List α :=
  xs.map fun x => if key x = k then f x else x

theorem find?_put {κ α : Type} [DecidableEq κ] (key : α → κ) (x : α) (xs : List α) (k : κ) :
    find? key k (put key x xs) = if key x = k then some x else find? key k xs := by
  induction xs with
  | nil => by_cases h : key x = k <;> simp [find?, put, h]
  | cons y ys ih =>
    simp only [find?] at ih
    by_cases hy : key y = key x
    · by_cases h : key x = k <;> simp [find?, put, hy, h]
    · by_cases hk : key y = k
      · have : ¬ key x = k := fun h => hy (hk.trans h.symm)
        rw [put, if_neg hy]
        simp [find?, hk, this]
      · simp [find?, put, hy, hk, ih]

end Keyed
end RecordFlow
