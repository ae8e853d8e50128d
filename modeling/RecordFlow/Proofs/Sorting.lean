/-
# Sorting — what an order by amounts keeps of a list

Definitions are listed by run order and actions by position, both with
`Amount.inOrder`.  Whatever the amounts are, nothing is listed that was not
there: `mem_inOrder`, which for amounts without a place in the order goes
through every merge of `Runs.sort`.  Where every amount has a place the result
is the stable order of the list: `inOrder_stable`.
-/
import RecordFlow.Number.Amount

namespace RecordFlow

/-! ## Merging runs adds nothing

The merges are told item by item and by leaps, so the cases follow their
definitions; in each of them what is merged is taken from one of the runs. -/

namespace Runs

variable {α : Type} (lt : α → α → Bool)

theorem mem_mergeFront {fuel : Nat} {pace : Pace} {eager : Nat} {left right done : List α} {a : α}
    (h : a ∈ (mergeFront lt fuel pace eager left right done).1) :
    a ∈ left ∨ a ∈ right ∨ a ∈ done := by
  induction fuel generalizing pace eager left right done with
  | zero => simp only [mergeFront] at h; grind
  | succ fuel ih =>
      cases left with
      | nil => simp only [mergeFront] at h; grind
      | cons x xs =>
          cases right with
          | nil => simp only [mergeFront] at h; grind
          | cons y ys =>
              cases pace with
              | single ls rs =>
                  simp only [mergeFront] at h
                  split at h
                  · split at h
                    · grind
                    · grind [ih h]
                  · split at h
                    · grind
                    · grind [ih h]
              | leaping =>
                  simp only [mergeFront] at h
                  split at h
                  · grind [List.mem_of_mem_take]
                  · grind [List.mem_of_mem_take, List.mem_of_mem_drop]
                  · split at h
                    · grind [List.mem_of_mem_take, List.mem_of_mem_drop]
                    · grind [List.mem_of_mem_take, List.mem_of_mem_drop]
                    · split at h
                      · grind [ih h, List.mem_of_mem_take, List.mem_of_mem_drop]
                      · grind [ih h, List.mem_of_mem_take, List.mem_of_mem_drop]

theorem mem_mergeBack {fuel : Nat} {pace : Pace} {eager : Nat} {left right done : List α} {a : α}
    (h : a ∈ (mergeBack lt fuel pace eager left right done).1) :
    a ∈ left ∨ a ∈ right ∨ a ∈ done := by
  induction fuel generalizing pace eager left right done with
  | zero => simp only [mergeBack] at h; grind
  | succ fuel ih =>
      cases left with
      | nil => simp only [mergeBack] at h; grind
      | cons x xs =>
          cases right with
          | nil => simp only [mergeBack] at h; grind
          | cons y ys =>
              cases pace with
              | single ls rs =>
                  simp only [mergeBack] at h
                  split at h
                  · split at h
                    · grind
                    · grind [ih h]
                  · split at h
                    · grind
                    · grind [ih h]
              | leaping =>
                  simp only [mergeBack] at h
                  split at h
                  · grind [List.mem_of_mem_take]
                  · grind [List.mem_of_mem_take, List.mem_of_mem_drop]
                  · split at h
                    · grind [List.mem_of_mem_take, List.mem_of_mem_drop]
                    · grind [List.mem_of_mem_take, List.mem_of_mem_drop]
                    · split at h
                      · grind [List.mem_of_mem_take, List.mem_of_mem_drop]
                      · split at h
                        · grind [ih h, List.mem_of_mem_take, List.mem_of_mem_drop]
                        · grind [ih h, List.mem_of_mem_take, List.mem_of_mem_drop]

theorem mem_merge {eager : Nat} {left right : List α} {a : α}
    (h : a ∈ (merge lt eager left right).1) : a ∈ left ∨ a ∈ right := by
  simp only [merge] at h
  split at h
  · exact .inl h
  · split at h
    · exact (List.mem_append.mp h).imp_left List.mem_of_mem_take
    · simp only [List.mem_append] at h
      rcases h with (h | h) | h
      · exact .inl (List.mem_of_mem_take h)
      · generalize hl : left.drop _ = l at h
        generalize hr : List.take _ _ = r at h
        suffices a ∈ l ∨ a ∈ r from
          this.imp (fun m => List.mem_of_mem_drop (hl ▸ m)) fun m => List.mem_of_mem_take (hr ▸ m)
        split at h
        · exact .inl h
        · exact .inr h
        · rename_i x xs turned
          have back : a ∈ l ↔ a ∈ x :: xs := by rw [← turned, List.mem_reverse]
          clear hl hr
          split at h
          · split at h
            · grind
            · split at h
              · grind
              · have := mem_mergeFront lt h
                grind
          · split at h
            · grind
            · have := mem_mergeBack lt h
              grind
      · exact .inr (List.mem_of_mem_drop h)

/-! ## Neither do cutting and balancing -/

theorem mem_firstRun {xs : List α} {a : α}
    (h : a ∈ (firstRun lt xs).1 ∨ a ∈ (firstRun lt xs).2) : a ∈ xs := by
  unfold firstRun at h
  grind [List.mem_of_mem_take, List.mem_of_mem_drop]

theorem mem_insert {run : List α} {x a : α} (h : a ∈ insert lt run x) : a ∈ run ∨ a = x := by
  unfold insert at h
  grind [List.mem_of_mem_take, List.mem_of_mem_drop]

theorem mem_foldl_insert {xs run : List α} {a : α} (h : a ∈ xs.foldl (insert lt) run) :
    a ∈ run ∨ a ∈ xs := by
  induction xs generalizing run with
  | nil => exact .inl h
  | cons x xs ih => grind [ih h, mem_insert]

theorem mem_nextRun {least : Nat} {xs : List α} {a : α}
    (h : a ∈ (nextRun lt least xs).1 ∨ a ∈ (nextRun lt least xs).2) : a ∈ xs := by
  simp only [nextRun] at h
  rcases h with h | h
  · rcases mem_foldl_insert lt h with h | h
    · exact mem_firstRun lt (.inl h)
    · exact mem_firstRun lt (.inr (List.mem_of_mem_take h))
  · exact mem_firstRun lt (.inr (List.mem_of_mem_drop h))

/-- An item of one of the waiting runs. -/
def Holds (waiting : List (Waiting α)) (a : α) : Prop := ∃ run ∈ waiting, a ∈ run.items

theorem mem_join (eager : Nat) (left right : Waiting α) {a : α}
    (h : a ∈ (Waiting.join lt eager left right).1.items) : a ∈ left.items ∨ a ∈ right.items :=
  mem_merge lt h

theorem holds_settle (depth eager : Nat) {waiting : List (Waiting α)} {a : α}
    (h : Holds (settle lt depth eager waiting).1 a) : Holds waiting a := by
  fun_induction settle lt depth eager waiting with
  | case1 eager last previous more deeper joined eager' joins ih =>
      have mem := @mem_join _ lt eager previous last a
      rw [joins] at mem
      obtain ⟨run, here, inside⟩ := ih h
      rcases List.mem_cons.mp here with rfl | here
      · rcases mem inside with inside | inside
        · exact ⟨previous, by simp, inside⟩
        · exact ⟨last, by simp, inside⟩
      · exact ⟨run, by simp [here], inside⟩
  | case2 => exact h
  | case3 => exact h

theorem holds_announce {total length eager : Nat} {waiting : List (Waiting α)} {a : α}
    (h : Holds (announce lt total length eager waiting).1 a) : Holds waiting a := by
  cases waiting with
  | nil => exact h
  | cons last more =>
      simp only [announce] at h
      split at h
      · rename_i last' more' eager' settled
        apply holds_settle lt
        rw [settled]
        obtain ⟨run, here, inside⟩ := h
        rcases List.mem_cons.mp here with rfl | here
        · exact ⟨last', by simp, inside⟩
        · exact ⟨run, by simp [here], inside⟩
      · obtain ⟨run, here, _⟩ := h
        cases here

theorem holds_cut {total least fuel start eager : Nat} {waiting : List (Waiting α)}
    {xs : List α} {a : α} (h : Holds (cut lt total least fuel start eager waiting xs).1 a) :
    Holds waiting a ∨ a ∈ xs := by
  induction fuel generalizing start eager waiting xs with
  | zero => exact .inl h
  | succ fuel ih =>
      cases xs with
      | nil => exact .inl h
      | cons x xs =>
          rcases ih h with ⟨run, here, inside⟩ | inside
          · rcases List.mem_cons.mp here with rfl | here
            · exact .inr (mem_nextRun lt (.inl inside))
            · exact .inl (holds_announce lt ⟨run, here, inside⟩)
          · exact .inr (mem_nextRun lt (.inr inside))

theorem holds_collapse {eager : Nat} {waiting : List (Waiting α)} {a : α}
    (h : a ∈ collapse lt eager waiting) : Holds waiting a := by
  fun_induction collapse lt eager waiting with
  | case1 => cases h
  | case2 eager only => exact ⟨only, by simp, h⟩
  | case3 eager last previous =>
      rcases mem_merge lt h with h | h
      · exact ⟨previous, by simp, h⟩
      · exact ⟨last, by simp, h⟩
  | case4 eager last previous before more shorter joined eager' joins ih =>
      have mem := @mem_join _ lt eager before previous a
      rw [joins] at mem
      obtain ⟨run, here, inside⟩ := ih h
      simp only [List.mem_cons] at here
      rcases here with rfl | rfl | here
      · exact ⟨run, by simp, inside⟩
      · rcases mem inside with inside | inside
        · exact ⟨before, by simp, inside⟩
        · exact ⟨previous, by simp, inside⟩
      · exact ⟨run, by simp [here], inside⟩
  | case5 eager last previous before more longer joined eager' joins ih =>
      have mem := @mem_join _ lt eager previous last a
      rw [joins] at mem
      obtain ⟨run, here, inside⟩ := ih h
      simp only [List.mem_cons] at here
      rcases here with rfl | rfl | here
      · rcases mem inside with inside | inside
        · exact ⟨previous, by simp, inside⟩
        · exact ⟨last, by simp, inside⟩
      · exact ⟨run, by simp, inside⟩
      · exact ⟨run, by simp [here], inside⟩

theorem mem_sort {xs : List α} {a : α} (h : a ∈ sort lt xs) : a ∈ xs := by
  rcases holds_cut lt (holds_collapse lt h) with ⟨run, here, _⟩ | h
  · cases here
  · exact h

end Runs

namespace Amount

variable {α : Type} {amount : α → Amount}

theorem mem_inOrder {xs : List α} {a : α} (h : a ∈ inOrder amount xs) : a ∈ xs := by
  unfold inOrder at h
  split at h
  · exact List.mem_mergeSort.mp h
  · exact Runs.mem_sort _ h

/-! ## The stable order

Numbers other than NaN are ordered like their ranks, so among amounts with a
place the order is total.  Behind them the others are let in, to make it total
on all amounts, as the lemmas on merge sort ask for. -/

end Amount

namespace Binary64

/-- The rank of a number other than NaN, the infinities at the ends. -/
def rank : Binary64 → Int × Int
  | .infinite s => (if s then -1 else 1, 0)
  | .finite s u => (0, signed s u)
  | .nan => (0, 0)

theorem lt_iff_rank {x y : Binary64} (hx : x ≠ .nan) (hy : y ≠ .nan) :
    lt x y = true ↔ x.rank.1 < y.rank.1 ∨ x.rank.1 = y.rank.1 ∧ x.rank.2 < y.rank.2 := by
  cases x with
  | nan => exact absurd rfl hx
  | infinite s =>
      cases y with
      | nan => exact absurd rfl hy
      | infinite t => cases s <;> cases t <;> decide
      | finite t v => cases s <;> simp [lt, le, rank]
  | finite s u =>
      cases y with
      | nan => exact absurd rfl hy
      | infinite t => cases t <;> simp [lt, le, rank]
      | finite t v => simp [lt, le, rank]; omega

end Binary64

namespace Amount

variable {α : Type} {amount : α → Amount}

/-- Whether two amounts have one and the same place in the order. -/
def ties (a b : Amount) : Bool := a.isPlaced && b.isPlaced && !a.lt b && !b.lt a

/-- A list is the stable order of another by an amount: it has the same items, none is followed
by one of a lesser amount, and those of one place stand as they stood. -/
structure StableOrder (amount : α → Amount) (xs ys : List α) : Prop where
  perm : ys.Perm xs
  rising : ys.Pairwise fun a b => (amount b).lt (amount a) = false
  stable : ∀ place, ys.filter (fun a => (amount a).ties place) =
    xs.filter fun a => (amount a).ties place

/-- The order of amounts, with those that have no place behind the others. -/
def atMost (a b : Amount) : Bool := !b.isPlaced || a.isPlaced && !b.lt a

theorem inUnits_ne_nan {a : Amount} (placed : a.isPlaced = true) : a.inUnits ≠ .nan := by
  rintro h
  cases a with
  | whole n => cases h
  | real x =>
      obtain rfl : x = .nan := h
      cases placed

theorem lt_iff_rank {a b : Amount} (ha : a.isPlaced = true) (hb : b.isPlaced = true) :
    a.lt b = true ↔ a.inUnits.rank.1 < b.inUnits.rank.1 ∨
      a.inUnits.rank.1 = b.inUnits.rank.1 ∧ a.inUnits.rank.2 < b.inUnits.rank.2 :=
  Binary64.lt_iff_rank (inUnits_ne_nan ha) (inUnits_ne_nan hb)

theorem atMost_iff_of_placed {a b : Amount} (ha : a.isPlaced = true) (hb : b.isPlaced = true) :
    a.atMost b = true ↔ a.inUnits.rank.1 < b.inUnits.rank.1 ∨
      a.inUnits.rank.1 = b.inUnits.rank.1 ∧ a.inUnits.rank.2 ≤ b.inUnits.rank.2 := by
  have h := lt_iff_rank hb ha
  simp only [atMost, ha, hb, Bool.not_true, Bool.false_or, Bool.true_and, Bool.not_eq_true',
    ← Bool.not_eq_true, h]
  omega

theorem atMost_total (a b : Amount) : (a.atMost b || b.atMost a) = true := by
  by_cases ha : a.isPlaced = true
  · by_cases hb : b.isPlaced = true
    · rw [Bool.or_eq_true, atMost_iff_of_placed ha hb, atMost_iff_of_placed hb ha]
      omega
    · simp [atMost, hb]
  · simp [atMost, ha]

theorem atMost_trans (a b c : Amount) (hab : a.atMost b = true) (hbc : b.atMost c = true) :
    a.atMost c = true := by
  by_cases hc : c.isPlaced = true
  · have hb : b.isPlaced = true := by simp_all [atMost]
    have ha : a.isPlaced = true := by simp_all [atMost]
    rw [atMost_iff_of_placed ha hb] at hab
    rw [atMost_iff_of_placed hb hc] at hbc
    rw [atMost_iff_of_placed ha hc]
    omega
  · simp [atMost, hc]

theorem atMost_of_ties {a b place : Amount} (ha : a.ties place = true)
    (hb : b.ties place = true) : a.atMost b = true := by
  simp only [ties, Bool.and_eq_true, Bool.not_eq_true', ← Bool.not_eq_true] at ha hb
  obtain ⟨⟨⟨placed, there⟩, ha⟩, ha'⟩ := ha
  obtain ⟨⟨⟨placed', _⟩, hb⟩, hb'⟩ := hb
  rw [lt_iff_rank placed there] at ha
  rw [lt_iff_rank there placed] at ha'
  rw [lt_iff_rank placed' there] at hb
  rw [lt_iff_rank there placed'] at hb'
  rw [atMost_iff_of_placed placed placed']
  omega

theorem inOrder_eq_mergeSort {xs : List α} (placed : ∀ a ∈ xs, (amount a).isPlaced = true) :
    inOrder amount xs = xs.mergeSort fun a b => (amount a).atMost (amount b) := by
  have same := List.map_mergeSort (f := id) (l := xs)
    (r := fun a b => !(amount b).lt (amount a)) (s := fun a b => (amount a).atMost (amount b))
    fun a ha b hb => by simp [atMost, placed a ha, placed b hb]
  simpa [inOrder, List.all_eq_true.mpr placed] using same

/-- Where every amount has a place, the list in order is the stable order of the list. -/
theorem inOrder_stable {xs : List α} (placed : ∀ a ∈ xs, (amount a).isPlaced = true) :
    StableOrder amount xs (inOrder amount xs) := by
  rw [inOrder_eq_mergeSort placed]
  have trans := fun a b c : α => atMost_trans (amount a) (amount b) (amount c)
  have total := fun a b : α => atMost_total (amount a) (amount b)
  have perm := List.mergeSort_perm xs fun a b => (amount a).atMost (amount b)
  refine ⟨perm, ?_, fun place => ?_⟩
  · refine (List.pairwise_mergeSort trans total xs).imp_of_mem fun {a b} ha hb h => ?_
    have pa := placed a (perm.mem_iff.mp ha)
    have pb := placed b (perm.mem_iff.mp hb)
    simpa [atMost, pa, pb] using h
  · -- what ties with one place rises already, so it is a sublist of the sorted list
    have tied : (xs.filter fun a => (amount a).ties place).Pairwise
        fun a b => (amount a).atMost (amount b) = true :=
      List.pairwise_filter.mpr (List.pairwise_of_forall fun a b ha hb => atMost_of_ties ha hb)
    have kept := (List.sublist_mergeSort trans total tied List.filter_sublist).filter
      fun a => (amount a).ties place
    simp only [List.filter_filter, Bool.and_self] at kept
    exact (kept.eq_of_length ((perm.filter _).length_eq.symm)).symm

theorem StableOrder.filter {xs ys : List α} (h : StableOrder amount xs ys) (p : α → Bool) :
    StableOrder amount (xs.filter p) (ys.filter p) where
  perm := h.perm.filter p
  rising := h.rising.filter p
  stable place := by
    have swap : ∀ zs : List α, (zs.filter p).filter (fun a => (amount a).ties place)
        = (zs.filter fun a => (amount a).ties place).filter p := fun zs => by
      simp only [List.filter_filter, Bool.and_comm]
    rw [swap, swap, h.stable]

/-- A list that rises is in order. -/
theorem inOrder_of_rising {xs : List α} (placed : ∀ a ∈ xs, (amount a).isPlaced = true)
    (rising : xs.Pairwise fun a b => (amount b).lt (amount a) = false) :
    inOrder amount xs = xs := by
  rw [inOrder, if_pos (List.all_eq_true.mpr placed)]
  exact List.mergeSort_of_pairwise (rising.imp fun h => by simp [h])

end Amount
end RecordFlow
