/-
# Sequences — steps that may fail, one after the other

A computation fails or comes to a value.  Of steps that are taken one after the
other the first that fails is the end; so what all of them come to is told by
what each of them comes to.
-/
import Mathlib.Data.List.Forall2
import RecordFlow.Failure

namespace RecordFlow

/-! ## One computation -/

/-- A computation gives no answer. -/
def Fails {α : Type} (x : Except Failure α) : Prop := ∃ f, x = .error f

section

variable {α β : Type}

theorem not_fails_ok (a : α) : ¬ Fails (.ok a : Except Failure α) := nofun

theorem fails_error (f : Failure) : Fails (.error f : Except Failure α) := ⟨f, rfl⟩

theorem fails_map_iff {x : Except Failure α} {g : α → β} : Fails (g <$> x) ↔ Fails x := by
  cases x with
  | ok a => exact iff_of_false (not_fails_ok _) (not_fails_ok _)
  | error f => exact iff_of_true (fails_error f) (fails_error f)

theorem ok_of_not_fails {x : Except Failure α} (h : ¬ Fails x) : ∃ a, x = .ok a := by
  cases x with
  | ok a => exact ⟨a, rfl⟩
  | error f => exact absurd (fails_error f) h

end

section

variable {ε α β γ : Type}

theorem ok_of_bind_ok {x : Except ε α} {f : α → Except ε β} {b : β}
    (h : x >>= f = .ok b) : ∃ a, x = .ok a ∧ f a = .ok b := by
  cases x with
  | ok a => exact ⟨a, rfl, h⟩
  | error e => cases h

theorem ok_of_map_ok {x : Except ε α} {f : α → β} {b : β}
    (h : f <$> x = .ok b) : ∃ a, x = .ok a ∧ f a = b := by
  cases x with
  | ok a => exact ⟨a, rfl, Except.ok.inj h⟩
  | error e => cases h

theorem map_eq_error_iff {x : Except ε α} {f : α → β} {e : ε} :
    f <$> x = .error e ↔ x = .error e := by
  cases x with
  | ok a => exact iff_of_false nofun nofun
  | error e' =>
      exact ⟨fun h => congrArg _ (Except.error.inj h), fun h => congrArg _ (Except.error.inj h)⟩

/-! ## Steps that give something each -/

variable {f : α → Except ε β} {xs : List α} {e : ε}

/-- Steps give what each of them gives. -/
theorem mapM_eq_ok_iff {ys : List β} :
    xs.mapM f = .ok ys ↔ List.Forall₂ (fun x y => f x = .ok y) xs ys := by
  constructor
  · intro given
    induction xs generalizing ys with
    | nil =>
        obtain rfl : [] = ys := Except.ok.inj given
        exact .nil
    | cons x xs ih =>
        rw [List.mapM_cons] at given
        obtain ⟨y, first, given⟩ := ok_of_bind_ok given
        obtain ⟨zs, rest, given⟩ := ok_of_bind_ok given
        obtain rfl : y :: zs = ys := Except.ok.inj given
        exact .cons first (ih rest)
  · intro each
    induction each with
    | nil => rfl
    | cons head _ ih => rw [List.mapM_cons, head, ih]; rfl

/-- The failure of steps is that of one of them. -/
theorem exists_of_mapM_error (failed : xs.mapM f = .error e) : ∃ x ∈ xs, f x = .error e := by
  induction xs with
  | nil => cases failed
  | cons x xs ih =>
      rw [List.mapM_cons] at failed
      cases first : f x with
      | error e' =>
          rw [first] at failed
          obtain rfl : e' = e := Except.error.inj failed
          exact ⟨x, List.mem_cons_self, first⟩
      | ok y =>
          rw [first] at failed
          cases rest : xs.mapM f with
          | error e' =>
              rw [rest] at failed
              obtain rfl : e' = e := Except.error.inj failed
              obtain ⟨z, mem, here⟩ := ih rest
              exact ⟨z, List.mem_cons_of_mem _ mem, here⟩
          | ok ys =>
              rw [rest] at failed
              cases failed

/-- Where all steps give something, each of them gives a part of it. -/
theorem exists_of_mapM_ok {ys : List β} {x : α} (all : xs.mapM f = .ok ys) (mem : x ∈ xs) :
    ∃ y ∈ ys, f x = .ok y := by
  have each := mapM_eq_ok_iff.mp all
  clear all
  induction each with
  | nil => cases mem
  | cons head _ ih =>
      rcases List.mem_cons.mp mem with rfl | mem
      · exact ⟨_, List.mem_cons_self, head⟩
      · obtain ⟨y, there, given⟩ := ih mem
        exact ⟨y, List.mem_cons_of_mem _ there, given⟩

/-- Steps that can fail in one way only fail in it when one of them does. -/
theorem mapM_eq_error_iff (only : ∀ x ∈ xs, ∀ e', f x = .error e' → e' = e) :
    xs.mapM f = .error e ↔ ∃ x ∈ xs, f x = .error e := by
  refine ⟨exists_of_mapM_error, fun ⟨x, mem, failed⟩ => ?_⟩
  cases all : xs.mapM f with
  | ok ys =>
      obtain ⟨y, -, given⟩ := exists_of_mapM_ok all mem
      rw [failed] at given
      cases given
  | error e' =>
      obtain ⟨z, mem, here⟩ := exists_of_mapM_error all
      rw [only z mem e' here]

/-- What a list of steps gives was given by one of them. -/
theorem mem_of_mapM_ok {ys : List β} {y : β} (h : xs.mapM f = .ok ys) (mem : y ∈ ys) :
    ∃ x ∈ xs, f x = .ok y := by
  have each := mapM_eq_ok_iff.mp h
  clear h
  induction each with
  | nil => cases mem
  | cons head _ ih =>
      rcases List.mem_cons.mp mem with rfl | mem
      · exact ⟨_, List.mem_cons_self, head⟩
      · obtain ⟨x, here, given⟩ := ih mem
        exact ⟨x, List.mem_cons_of_mem _ here, given⟩

theorem mapM_some_of_ok {x : α} {y : β} (ok : f x = .ok y) : (some x).mapM f = .ok (some y) := by
  rw [Option.mapM_some, ok]
  rfl

theorem mapM_map_of_ok {write : α → β} {f : β → Except ε γ} {g : α → γ}
    (each : ∀ x ∈ xs, f (write x) = .ok (g x)) : (xs.map write).mapM f = .ok (xs.map g) :=
  mapM_eq_ok_iff.mpr (List.forall₂_map_left_iff.mpr (List.forall₂_map_right_iff.mpr
    (List.forall₂_same.mpr each)))

theorem mapM_of_ok {g : α → β} (each : ∀ x ∈ xs, f x = .ok (g x)) : xs.mapM f = .ok (xs.map g) :=
  mapM_eq_ok_iff.mpr (List.forall₂_map_right_iff.mpr (List.forall₂_same.mpr each))

/-- What was written item by item is read item by item. -/
theorem mapM_read_back {write : α → β} {read : β → Except ε α}
    (each : ∀ x ∈ xs, read (write x) = .ok x) : (xs.map write).mapM read = .ok xs :=
  (mapM_map_of_ok (g := id) each).trans (congrArg _ (List.map_id xs))

theorem exists_mapM_ok (each : ∀ x ∈ xs, ∃ y, f x = .ok y) : ∃ ys, xs.mapM f = .ok ys := by
  cases all : xs.mapM f with
  | ok ys => exact ⟨ys, rfl⟩
  | error e =>
      obtain ⟨x, mem, failed⟩ := exists_of_mapM_error all
      obtain ⟨y, given⟩ := each x mem
      rw [failed] at given
      cases given

/-! ## Steps that give nothing -/

variable {g : α → Except ε Unit}

theorem forM_eq_ok_iff : xs.forM g = .ok () ↔ ∀ x ∈ xs, g x = .ok () := by
  induction xs with
  | nil => exact iff_of_true rfl (List.forall_mem_nil _)
  | cons x xs ih =>
      rw [List.forall_mem_cons, ← ih]
      show (g x >>= fun _ => xs.forM g) = .ok () ↔ _
      cases g x with
      | ok _ => exact (and_iff_right rfl).symm
      | error e => exact iff_of_false nofun nofun

/-- Steps fail with the failure of the first that fails. -/
theorem exists_of_forM_error (failed : xs.forM g = .error e) :
    ∃ before x after, xs = before ++ x :: after ∧ (∀ y ∈ before, g y = .ok ()) ∧
      g x = .error e := by
  induction xs with
  | nil => cases failed
  | cons x xs ih =>
      replace failed : (g x >>= fun _ => xs.forM g) = .error e := failed
      cases first : g x with
      | error e' =>
          rw [first] at failed
          obtain rfl : e' = e := Except.error.inj failed
          exact ⟨[], x, xs, rfl, List.forall_mem_nil _, first⟩
      | ok _ =>
          rw [first] at failed
          obtain ⟨before, y, after, rfl, passed, here⟩ := ih failed
          exact ⟨x :: before, y, after, rfl, List.forall_mem_cons.mpr ⟨first, passed⟩, here⟩

end

end RecordFlow
