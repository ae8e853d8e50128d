/-
# Equivalence — equal values, and membership that goes by them

A NaN is equal to nothing, and a record that named a field twice would be
compared by one of the two only.  Without them the comparison of two values
always gives an answer, and it puts the values into classes: each is equal to
itself, the order of the two does not matter, and what is equal to one of two
equal values is equal to the other.  The guard for truth values splits a class
into two at most, so the operator of conditions does the same; and membership,
which is that operator tried on one item after the other, cannot tell two equal
values apart.
-/
import Mathlib.Data.List.Perm.Subperm
import RecordFlow.Proofs.Verdict

namespace RecordFlow

namespace Value

/-- A value that can be compared all through: no number in it is a NaN, and its records have each
name once. -/
inductive IsComparable : Value → Prop
  | null : IsComparable .null
  | bool (b : Bool) : IsComparable (.bool b)
  | int (n : Int) : IsComparable (.int n)
  | float {x : Binary64} : x ≠ .nan → IsComparable (.float x)
  | decimal (negative : Bool) (coefficient : Nat) (exponent : Int) :
      IsComparable (.decimal (.finite negative coefficient exponent))
  | boundless (negative : Bool) : IsComparable (.decimal (.infinite negative))
  | text (s : String) : IsComparable (.text s)
  | list {xs : List Value} : (∀ x ∈ xs, IsComparable x) → IsComparable (.list xs)
  | tuple {xs : List Value} : (∀ x ∈ xs, IsComparable x) → IsComparable (.tuple xs)
  | record {fs : Fields} : (fs.map Prod.fst).Nodup → (∀ f ∈ fs, IsComparable f.2) →
      IsComparable (.record fs)

/-- The values that can be compared all through. -/
abbrev Comparable : Type := { v : Value // v.IsComparable }

variable {a b c : Value} {xs ys zs : List Value} {fs gs hs : Fields}

theorem IsComparable.magnitude? (h : a.IsComparable) (number : a.isNumber = true) :
    ∃ m, a.magnitude? = some m := by
  cases h with
  | float placed =>
      rename_i x
      cases x with
      | finite negative units => exact Option.isSome_iff_exists.mp (by
          simp only [Value.magnitude?, Magnitude.ofBinary64?]
          split <;> rfl)
      | infinite => exact ⟨_, rfl⟩
      | nan => exact absurd rfl placed
  | bool | int | decimal | boundless => exact ⟨_, rfl⟩
  | _ => cases number

theorem IsComparable.isSignaling (h : a.IsComparable) : a.isSignaling = false := by
  cases h <;> rfl

/-! ## Fields -/

/-- Of two records of one size, the names of the one are those of the other if they are among
them. -/
theorem exists_field (once : (fs.map Prod.fst).Nodup) (size : fs.length = gs.length)
    (among : ∀ f ∈ fs, ∃ w, gs.find? f.1 = some w) {g : String × Value} (mem : g ∈ gs) :
    ∃ f ∈ fs, f.1 = g.1 := by
  have names : fs.map Prod.fst ⊆ gs.map Prod.fst := by
    intro name here
    obtain ⟨f, there, rfl⟩ := List.mem_map.mp here
    obtain ⟨w, found⟩ := among f there
    exact List.mem_map.mpr ⟨(f.1, w), Fields.mem_of_find? found, rfl⟩
  have all := (once.subperm names).perm_of_length_le (by simp [size])
  exact List.mem_map.mp (all.mem_iff.mpr (List.mem_map_of_mem mem))

/-! ## Every value is equal to itself -/

theorem ItemsEqual.of_each (each : ∀ x ∈ xs, Equals x x) : ItemsEqual xs xs := by
  induction xs with
  | nil => exact .nil
  | cons x xs ih =>
      exact .cons (each x List.mem_cons_self) (ih fun y mem => each y (List.mem_cons_of_mem _ mem))

theorem Equals.refl (h : a.IsComparable) : Equals a a := by
  have number {v : Value} (comparable : v.IsComparable) (number : v.isNumber = true) :
      Equals v v := by
    obtain ⟨m, there⟩ := comparable.magnitude? number
    exact .numbers number number (equalNumbers_iff.mpr ⟨m, there, there⟩)
  induction h with
  | null => exact .null
  | text s => exact .text s
  | bool b => exact number (.bool b) rfl
  | int n => exact number (.int n) rfl
  | float placed => exact number (.float placed) rfl
  | decimal s c e => exact number (.decimal s c e) rfl
  | boundless s => exact number (.boundless s) rfl
  | list _ ih => exact .lists (.of_each ih)
  | tuple _ ih => exact .tuples (.of_each ih)
  | record once _ ih =>
      refine .records rfl (fieldsEqual_iff.mpr fun f mem => ?_)
      exact ⟨f.2, Fields.find?_of_mem once mem, ih f mem⟩

/-! ## The order of two values does not matter -/

theorem ItemsEqual.symm
    (each : ∀ x ∈ xs, ∀ y : Value, y.IsComparable → Equals x y → Equals y x)
    (right : ∀ y ∈ ys, y.IsComparable) (h : ItemsEqual xs ys) : ItemsEqual ys xs := by
  induction xs generalizing ys with
  | nil =>
      cases h
      exact .nil
  | cons x xs ih =>
      cases h with
      | cons first rest =>
          refine .cons (each x List.mem_cons_self _ (right _ List.mem_cons_self) first) ?_
          exact ih (fun z mem => each z (List.mem_cons_of_mem _ mem))
            (fun z mem => right z (List.mem_cons_of_mem _ mem)) rest

/-- The fields of the second record are looked for among those of the first, where they all are
because the two records have as many. -/
theorem FieldsEqual.symm
    (each : ∀ f ∈ fs, ∀ y : Value, y.IsComparable → Equals f.2 y → Equals y f.2)
    (left : (fs.map Prod.fst).Nodup) (right : (gs.map Prod.fst).Nodup)
    (comparable : ∀ g ∈ gs, g.2.IsComparable) (size : fs.length = gs.length)
    (h : FieldsEqual fs gs) : FieldsEqual gs fs := by
  have among := fieldsEqual_iff.mp h
  refine fieldsEqual_iff.mpr fun g mem => ?_
  obtain ⟨f, here, same⟩ :=
    exists_field left size (fun f mem => (among f mem).imp fun _ => And.left) mem
  obtain ⟨w, found, equal⟩ := among f here
  rw [same, Fields.find?_of_mem right mem, Option.some.injEq] at found
  refine ⟨f.2, same ▸ Fields.find?_of_mem left here, ?_⟩
  exact each f here g.2 (comparable g mem) (found ▸ equal)

theorem Equals.symm (left : a.IsComparable) (right : b.IsComparable) (h : Equals a b) :
    Equals b a := by
  induction left generalizing b with
  | list _ ih =>
      cases h with
      | numbers number => cases number
      | lists items =>
          cases right with
          | list others => exact .lists (items.symm ih others)
  | tuple _ ih =>
      cases h with
      | numbers number => cases number
      | tuples items =>
          cases right with
          | tuple others => exact .tuples (items.symm ih others)
  | record once _ ih =>
      cases h with
      | numbers number => cases number
      | records size fields =>
          cases right with
          | record once' others => exact .records size.symm (fields.symm ih once once' others size)
  | null =>
      cases h with
      | numbers number => cases number
      | null => exact .null
  | text s =>
      cases h with
      | numbers number => cases number
      | text => exact .text s
  | bool | int | float | decimal | boundless =>
      cases h with
      | numbers left right equal =>
          obtain ⟨m, here, there⟩ := equalNumbers_iff.mp equal
          exact .numbers right left (equalNumbers_iff.mpr ⟨m, there, here⟩)

/-! ## What is equal to one of two equal values is equal to the other -/

theorem ItemsEqual.trans
    (each : ∀ x ∈ xs, ∀ y z : Value, Equals x y → Equals y z → Equals x z)
    (h : ItemsEqual xs ys) (h' : ItemsEqual ys zs) : ItemsEqual xs zs := by
  induction xs generalizing ys zs with
  | nil =>
      cases h
      exact h'
  | cons x xs ih =>
      cases h with
      | cons first rest =>
          cases h' with
          | cons first' rest' =>
              exact .cons (each x List.mem_cons_self _ _ first first')
                (ih (fun w mem => each w (List.mem_cons_of_mem _ mem)) rest rest')

theorem FieldsEqual.trans
    (each : ∀ f ∈ fs, ∀ y z : Value, Equals f.2 y → Equals y z → Equals f.2 z)
    (h : FieldsEqual fs gs) (h' : FieldsEqual gs hs) : FieldsEqual fs hs := by
  refine fieldsEqual_iff.mpr fun f mem => ?_
  obtain ⟨v, found, equal⟩ := fieldsEqual_iff.mp h f mem
  obtain ⟨w, found', equal'⟩ := fieldsEqual_iff.mp h' _ (Fields.mem_of_find? found)
  exact ⟨w, found', each f mem v w equal equal'⟩

theorem Equals.trans (left : a.IsComparable) (h : Equals a b) (h' : Equals b c) : Equals a c := by
  induction left generalizing b c with
  | list _ ih =>
      cases h with
      | numbers number => cases number
      | lists items =>
          cases h' with
          | numbers number => cases number
          | lists items' => exact .lists (items.trans (fun x mem _ _ => ih x mem) items')
  | tuple _ ih =>
      cases h with
      | numbers number => cases number
      | tuples items =>
          cases h' with
          | numbers number => cases number
          | tuples items' => exact .tuples (items.trans (fun x mem _ _ => ih x mem) items')
  | record _ _ ih =>
      cases h with
      | numbers number => cases number
      | records size fields =>
          cases h' with
          | numbers number => cases number
          | records size' fields' =>
              exact .records (size.trans size') (fields.trans (fun f mem _ _ => ih f mem) fields')
  | null | text =>
      cases h with
      | numbers number => cases number
      | _ => exact h'
  | bool | int | float | decimal | boundless =>
      cases h with
      | numbers left middle equal =>
          obtain ⟨m, here, there⟩ := equalNumbers_iff.mp equal
          cases h' with
          | numbers _ right equal' =>
              obtain ⟨m', there', last⟩ := equalNumbers_iff.mp equal'
              obtain rfl := Option.some.inj (there.symm.trans there')
              exact .numbers left right (equalNumbers_iff.mpr ⟨m, here, last⟩)
          | _ => cases middle

/-! ## The comparison gives an answer -/

theorem ItemsRefuse.exists_mem {xs ys : List Value} (h : ItemsRefuse xs ys) :
    ∃ x ∈ xs, ∃ y ∈ ys, Refuses x y := by
  match h with
  | .here refuses => exact ⟨_, List.mem_cons_self, _, List.mem_cons_self, refuses⟩
  | .later _ rest =>
      obtain ⟨x, here, y, there, refuses⟩ := rest.exists_mem
      exact ⟨x, List.mem_cons_of_mem _ here, y, List.mem_cons_of_mem _ there, refuses⟩

theorem FieldsRefuse.exists_mem {fs gs : Fields} (h : FieldsRefuse fs gs) :
    ∃ f ∈ fs, ∃ g ∈ gs, Refuses f.2 g.2 := by
  match h with
  | .here found refuses => exact ⟨_, List.mem_cons_self, _, Fields.mem_of_find? found, refuses⟩
  | .later _ _ rest =>
      obtain ⟨f, here, g, there, refuses⟩ := rest.exists_mem
      exact ⟨f, List.mem_cons_of_mem _ here, g, there, refuses⟩

/-- No comparison is refused where no number is a NaN. -/
theorem not_refuses (left : a.IsComparable) (right : b.IsComparable) : ¬ Refuses a b := by
  induction left generalizing b with
  | list _ ih =>
      intro refuses
      cases refuses with
      | numbers number => cases number
      | lists _ items =>
          cases right with
          | list others =>
              obtain ⟨x, here, y, there, refuses⟩ := items.exists_mem
              exact ih x here (others y there) refuses
  | tuple _ ih =>
      intro refuses
      cases refuses with
      | numbers number => cases number
      | tuples items =>
          cases right with
          | tuple others =>
              obtain ⟨x, here, y, there, refuses⟩ := items.exists_mem
              exact ih x here (others y there) refuses
  | record _ _ ih =>
      intro refuses
      cases refuses with
      | numbers number => cases number
      | records _ fields =>
          cases right with
          | record _ others =>
              obtain ⟨f, here, g, there, refuses⟩ := fields.exists_mem
              exact ih f here (others g there) refuses
  | _ =>
      intro refuses
      cases refuses with
      | numbers _ _ signaling =>
          rw [right.isSignaling] at signaling
          cases signaling with
          | inl signaling => cases signaling
          | inr signaling => cases signaling

theorem exists_same (left : a.IsComparable) (right : b.IsComparable) :
    ∃ r, a.same b = .ok r :=
  ok_of_not_fails fun failed => not_refuses left right (fails_same_iff.mp failed).2

/-! ## The comparison of the operators -/

/-- What is the same as one of two values that are the same is the same as the other, and what is
not is not. -/
theorem same_congr (left : a.IsComparable) (right : b.IsComparable) (other : c.IsComparable)
    (h : a.same b = .ok true) : a.same c = b.same c := by
  obtain ⟨alike, equal⟩ := same_iff.mp h
  obtain ⟨r, here⟩ := exists_same left other
  obtain ⟨r', there⟩ := exists_same right other
  have iff : a.same c = .ok true ↔ b.same c = .ok true := by
    rw [same_iff, same_iff, alike]
    exact and_congr_right fun _ => ⟨(equal.symm left right).trans right, equal.trans left⟩
  simp only [here, there, Except.ok.injEq, Bool.coe_iff_coe] at iff ⊢
  exact iff

theorem sameAsAny_congr (each : ∀ x ∈ xs, a.same x = b.same x) :
    a.sameAsAny xs = b.sameAsAny xs := by
  induction xs with
  | nil => rfl
  | cons x xs ih =>
      rw [sameAsAny, sameAsAny, each x List.mem_cons_self,
        ih fun y mem => each y (List.mem_cons_of_mem _ mem)]

/-- The search finds a value just where there is one that is the same. -/
theorem exists_sameAsAny (each : ∀ x ∈ xs, ∃ r, a.same x = .ok r) :
    ∃ r, a.sameAsAny xs = .ok r ∧ (r = true ↔ ∃ x ∈ xs, a.same x = .ok true) := by
  induction xs with
  | nil => exact ⟨false, rfl, by simp⟩
  | cons x xs ih =>
      obtain ⟨first, here⟩ := each x List.mem_cons_self
      cases first with
      | true => exact ⟨true, by rw [sameAsAny, here], by simp [here]⟩
      | false =>
          obtain ⟨r, found, iff⟩ := ih fun y mem => each y (List.mem_cons_of_mem _ mem)
          exact ⟨r, by rw [sameAsAny, here, found], by simp [iff, here]⟩

end Value

namespace Condition

open Value (Comparable IsComparable)

theorem isMember_of_items {a c : Value} {xs : List Value} (listed : c.items? = some xs) :
    isMember a c = a.sameAsAny xs := by
  rw [isMember, listed]

/-- Among values that can be compared all through, "equals" always gives an answer and is an
equivalence; and whether a value is in a list of such values is the same for equal values: it is
when one of the items is equal to it. -/
theorem equals_equivalence :
    (∀ a b : Comparable, ∃ r, holds .equals a b = .ok r) ∧
    Equivalence (fun a b : Comparable => holds .equals a b = .ok true) ∧
    ∀ (a b : Comparable) (items : List Comparable) (c : Value),
      c.items? = some (items.map Subtype.val) → holds .equals a b = .ok true →
        ∃ r, (r = true ↔ ∃ x ∈ items, holds .equals a x = .ok true) ∧
          holds .isIn a c = .ok r ∧ holds .isIn b c = .ok r ∧
          holds .isNotIn a c = .ok !r ∧ holds .isNotIn b c = .ok !r := by
  refine ⟨fun a b => Value.exists_same a.2 b.2, ⟨?refl, ?symm, ?trans⟩, ?member⟩
  case refl =>
    exact fun a => Value.same_iff.mpr ⟨rfl, .refl a.2⟩
  case symm =>
    intro a b h
    obtain ⟨alike, equal⟩ := Value.same_iff.mp h
    exact Value.same_iff.mpr ⟨alike.symm, equal.symm a.2 b.2⟩
  case trans =>
    intro a b c h h'
    exact (Value.same_congr a.2 b.2 c.2 h).trans h'
  case member =>
    intro a b items c listed h
    have comparable : ∀ x ∈ items.map Subtype.val, IsComparable x := by
      rintro x mem
      obtain ⟨y, -, rfl⟩ := List.mem_map.mp mem
      exact y.2
    have alike : a.1.sameAsAny (items.map Subtype.val) = b.1.sameAsAny (items.map Subtype.val) :=
      Value.sameAsAny_congr fun x mem => Value.same_congr a.2 b.2 (comparable x mem) h
    obtain ⟨r, found, iff⟩ :=
      Value.exists_sameAsAny fun x mem => Value.exists_same a.2 (comparable x mem)
    have left : isMember a c = .ok r := (isMember_of_items listed).trans found
    have right : isMember b c = .ok r := (isMember_of_items listed).trans (alike ▸ found)
    refine ⟨r, iff.trans (by simp [holds]), left, right, ?_, ?_⟩
    · exact congrArg (Functor.map (!·)) left
    · exact congrArg (Functor.map (!·)) right

/-- An offer with its price in decimals and whether it is open. -/
def offer : Comparable :=
  ⟨.record [("price", .decimal (.finite false 150 (-2))), ("open", .list [.bool true])],
    .record (by decide) (by simp [IsComparable.decimal, IsComparable.list, IsComparable.bool])⟩

/-- The same offer with one place less, a number for the truth value and the fields in another
order. -/
def rewrittenOffer : Comparable :=
  ⟨.record [("open", .list [.int 1]), ("price", .decimal (.finite false 15 (-1)))],
    .record (by decide) (by simp [IsComparable.decimal, IsComparable.list, IsComparable.int])⟩

theorem offer_equals : holds .equals offer rewrittenOffer = .ok true := by
  have place : Magnitude.ofScaled false 150 (-2) = Magnitude.ofScaled false 15 (-1) := by
    simp [Magnitude.ofScaled, Magnitude.trimmed]
  have prices :
      Value.Equals (.decimal (.finite false 150 (-2))) (.decimal (.finite false 15 (-1))) :=
    .numbers rfl rfl (Value.equalNumbers_iff.mpr ⟨_, congrArg some place, rfl⟩)
  have truths : Value.Equals (.bool true) (.int 1) :=
    .numbers rfl rfl (Value.equalNumbers_iff.mpr ⟨_, rfl, rfl⟩)
  exact Value.same_iff.mpr
    ⟨rfl, .records rfl (.cons rfl prices (.cons rfl (.lists (.cons truths .nil)) (.nil _)))⟩

/-- The offer is in a list where it is written in another way. -/
theorem offer_listed :
    (Value.list [.null, rewrittenOffer]).items?
        = some (List.map Subtype.val [⟨.null, .null⟩, rewrittenOffer]) ∧
      holds .equals offer rewrittenOffer = .ok true ∧
      holds .equals rewrittenOffer offer = .ok true ∧
      holds .isIn offer (.list [.null, rewrittenOffer]) = .ok true := by
  obtain ⟨-, equivalence, member⟩ := equals_equivalence
  obtain ⟨r, iff, isIn, -, -, -⟩ :=
    member offer rewrittenOffer [⟨.null, .null⟩, rewrittenOffer]
      (.list [.null, rewrittenOffer]) rfl offer_equals
  obtain rfl : r = true := iff.mpr ⟨rewrittenOffer, by simp, offer_equals⟩
  exact ⟨rfl, offer_equals, equivalence.symm offer_equals, isIn⟩

end Condition
end RecordFlow
