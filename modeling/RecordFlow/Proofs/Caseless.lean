/-
# Caseless — a text that is found in another, whatever its letters

The text operators compare the lower-case forms of their two sides, each taken
by itself.  A character has one lower-case form wherever it stands, but for the
capital sigma: it is final where a word ends, and where a word ends is read off
the characters around it.  So a text stands in lower case where it stands as it
is just when no sigma of it becomes another by what is around it: `lowerIn_eq_iff`.

That a text is found in every text that holds it is therefore more than is
true.  Two ways are told in which a sigma becomes another, and they are all:
`keepsSigmas_iff`.
-/
import RecordFlow.Condition

namespace RecordFlow

namespace Text

/-! ## The end of a word -/

theorem nextIsCased_append (cs ds : List Char) :
    nextIsCased (cs ++ ds) =
      if cs.all isCaseIgnorable then nextIsCased ds else nextIsCased cs := by
  induction cs with
  | nil => rfl
  | cons c cs ih =>
      unfold nextIsCased at ih ⊢
      cases passed : isCaseIgnorable c with
      | true => simpa [passed] using ih
      | false => simp [passed]

theorem nextIsCased_of_all {cs : List Char} (passed : cs.all isCaseIgnorable = true) :
    nextIsCased cs = false := by
  have alone := nextIsCased_append cs []
  rwa [List.append_nil, if_pos passed] at alone

/-- Whether a capital sigma ends a word of its text; the part before it is given backwards. -/
def endsWord (before after : List Char) : Bool := nextIsCased before && !nextIsCased after

theorem smallSigma_eq_iff {before after before' after' : List Char} :
    smallSigma before after = smallSigma before' after' ↔
      endsWord before after = endsWord before' after' := by
  have apart : 'ς' ≠ 'σ' := by decide
  unfold smallSigma endsWord
  cases nextIsCased before && !nextIsCased after <;>
    cases nextIsCased before' && !nextIsCased after' <;> simp [apart, apart.symm]

/-! ## Lower case in a larger text -/

/-- Lower case of a part of a text in its place; what stands before it is given backwards. -/
def lowerIn (before after : List Char) : List Char → List Char
  | [] => []
  | c :: rest =>
    (if c == 'Σ' then [smallSigma before (rest ++ after)] else lowerChar c)
      ++ lowerIn (c :: before) after rest

/-- The part at the end of a text is lower-cased as the rest of it. -/
theorem lowerIn_nil (before cs : List Char) : lowerIn before [] cs = lowerFrom before cs := by
  induction cs generalizing before with
  | nil => rfl
  | cons c cs ih => rw [lowerIn, lowerFrom, ih, List.append_nil]

theorem lowerFrom_append (before cs ds : List Char) :
    lowerFrom before (cs ++ ds) = lowerIn before ds cs ++ lowerFrom (cs.reverse ++ before) ds := by
  induction cs generalizing before with
  | nil => rfl
  | cons c cs ih =>
      rw [List.cons_append, lowerFrom, lowerIn, ih, List.reverse_cons, List.append_assoc,
        List.append_assoc]
      rfl

/-- How many characters a lower-case form has does not depend on what is around it. -/
theorem length_lowerIn (before after before' after' cs : List Char) :
    (lowerIn before after cs).length = (lowerIn before' after' cs).length := by
  induction cs generalizing before before' with
  | nil => rfl
  | cons c cs ih =>
      rw [lowerIn, lowerIn, List.length_append, List.length_append, ih (c :: before) (c :: before')]
      split <;> rfl

/-- What is so of each place of a character in a list is so of the first place and of each place
in the rest. -/
theorem forall_places_cons {x c : Char} {cs : List Char} {p : List Char → List Char → Prop} :
    (∀ u v, c :: cs = u ++ x :: v → p u v) ↔
      (c = x → p [] cs) ∧ ∀ u v, cs = u ++ x :: v → p (c :: u) v := by
  constructor
  · intro all
    refine ⟨?_, fun u v rest => all (c :: u) v (congrArg (c :: ·) rest)⟩
    rintro rfl
    exact all [] cs rfl
  · rintro ⟨first, later⟩ u v split
    cases u with
    | nil =>
        obtain ⟨rfl, rfl⟩ := List.cons.inj split
        exact first rfl
    | cons d u =>
        obtain ⟨rfl, rest⟩ := List.cons.inj split
        exact later u v rest

/-- The lower-case form of a part of a text behind its own beginning, set beside the form it has
without what stands before that and after the part. -/
theorem lowerIn_behind (front before after cs : List Char) :
    lowerIn (front ++ before) after cs = lowerFrom front cs ↔
      ∀ u v, cs = u ++ 'Σ' :: v →
        endsWord (u.reverse ++ (front ++ before)) (v ++ after)
          = endsWord (u.reverse ++ front) v := by
  induction cs generalizing front with
  | nil => exact iff_of_true rfl fun u v none => by simp at none
  | cons c cs ih =>
      have onward (u : List Char) (more : List Char) :
          (c :: u).reverse ++ more = u.reverse ++ c :: more := by
        rw [List.reverse_cons, List.append_assoc]
        rfl
      have rest := ih (c :: front)
      rw [List.cons_append] at rest
      rw [lowerIn, lowerFrom, forall_places_cons]
      simp only [onward, ← rest]
      by_cases sigma : c = 'Σ'
      · subst sigma
        simp [smallSigma_eq_iff]
      · simp [sigma]

/-- The capital sigmas of a text end a word in it just when they do between two others; the part
before it is given backwards. -/
def KeepsSigmas (before after cs : List Char) : Prop :=
  ∀ u v, cs = u ++ 'Σ' :: v → endsWord (u.reverse ++ before) (v ++ after) = endsWord u.reverse v

/-- A text has the same lower-case form in its place as by itself just when its sigmas are the
same there. -/
theorem lowerIn_eq_iff (before after cs : List Char) :
    lowerIn before after cs = lowerFrom [] cs ↔ KeepsSigmas before after cs := by
  have alone := lowerIn_behind [] before after cs
  simp only [List.nil_append, List.append_nil] at alone
  exact alone

/-! ## How a sigma becomes another -/

/-- A text whose last word ends with a capital sigma, and what follows goes on with the word. -/
def RunsOn (cs after : List Char) : Prop :=
  nextIsCased after = true ∧
    ∃ u v, cs = u ++ 'Σ' :: v ∧ nextIsCased u.reverse = true ∧ v.all isCaseIgnorable = true

/-- A text that begins with a capital sigma, and the sigma is the end of a word that begins in
what stands before the text, given backwards. -/
def RunsIn (before cs after : List Char) : Prop :=
  nextIsCased before = true ∧
    ∃ u v, cs = u ++ 'Σ' :: v ∧ u.all isCaseIgnorable = true ∧ nextIsCased (v ++ after) = false

/-- One sigma of a text becomes another in one of two ways. -/
theorem endsWord_eq_iff (before after u v : List Char) :
    endsWord (u.reverse ++ before) (v ++ after) = endsWord u.reverse v ↔
      ¬ (nextIsCased after = true ∧ nextIsCased u.reverse = true ∧ v.all isCaseIgnorable = true) ∧
      ¬ (nextIsCased before = true ∧ u.all isCaseIgnorable = true ∧
        nextIsCased (v ++ after) = false) := by
  unfold endsWord
  rw [nextIsCased_append u.reverse, nextIsCased_append v, List.all_reverse]
  cases front : u.all isCaseIgnorable with
  | true =>
      -- nothing that counts stands before the sigma in the text: what stands before the text does
      have none : nextIsCased u.reverse = false := nextIsCased_of_all (by rwa [List.all_reverse])
      rw [none]
      cases back : v.all isCaseIgnorable <;> cases nextIsCased before <;> cases nextIsCased v <;>
        cases nextIsCased after <;> simp
  | false =>
      cases back : v.all isCaseIgnorable with
      | true =>
          rw [nextIsCased_of_all back]
          cases nextIsCased u.reverse <;> cases nextIsCased after <;> simp
      | false => simp

theorem keepsSigmas_iff (before after cs : List Char) :
    KeepsSigmas before after cs ↔ ¬ RunsOn cs after ∧ ¬ RunsIn before cs after := by
  constructor
  · intro kept
    constructor
    · rintro ⟨goesOn, u, v, split, cased, passed⟩
      exact ((endsWord_eq_iff before after u v).mp (kept u v split)).1 ⟨goesOn, cased, passed⟩
    · rintro ⟨began, u, v, split, passed, ended⟩
      exact ((endsWord_eq_iff before after u v).mp (kept u v split)).2 ⟨began, passed, ended⟩
  · rintro ⟨on, into⟩ u v split
    refine (endsWord_eq_iff before after u v).mpr ⟨?_, ?_⟩
    · rintro ⟨goesOn, cased, passed⟩
      exact on ⟨goesOn, u, v, split, cased, passed⟩
    · rintro ⟨began, passed, ended⟩
      exact into ⟨began, u, v, split, passed, ended⟩

/-- Nothing runs on into nothing. -/
theorem not_runsOn_nil (cs : List Char) : ¬ RunsOn cs [] := fun on => nomatch on.1

theorem not_runsIn_nil (cs after : List Char) : ¬ RunsIn [] cs after := fun into => nomatch into.1

end Text

namespace Condition

open Text

/-! ## The text operators -/

theorem caseless_text (s : String) : caseless (.text s) = .ok (lowerFrom [] s.toList) := by
  show Except.ok (Text.lower s).toList = _
  rw [Text.lower, String.toList_ofList]

theorem compareTexts_text (r : List Char → List Char → Bool) (s t : String) :
    compareTexts r (.text s) (.text t)
      = .ok (r (lowerFrom [] s.toList) (lowerFrom [] t.toList)) := by
  rw [compareTexts, caseless_text, caseless_text]
  rfl

theorem lowerFrom_append_text (s t : String) :
    lowerFrom [] (s ++ t).toList
      = lowerIn [] t.toList s.toList ++ lowerFrom s.toList.reverse t.toList := by
  rw [String.toList_append, lowerFrom_append, List.append_nil]

theorem occursIn_iff {needle cs : List Char} : occursIn needle cs = true ↔ needle <:+: cs := by
  induction cs with
  | nil => simp [occursIn]
  | cons c cs ih =>
      rw [occursIn, Bool.or_eq_true, ih, List.isPrefixOf_iff_prefix, List.infix_cons_iff]

theorem ok_true_iff {b : Bool} : (.ok b : Except Failure Bool) = .ok true ↔ b = true :=
  ⟨Except.ok.inj, congrArg _⟩

/-- A text begins with its own beginning unless a word runs on beyond that. -/
theorem startsWith_append_iff (y z : String) :
    holds .startsWith (.text (y ++ z)) (.text y) = .ok true ↔ ¬ RunsOn y.toList z.toList := by
  have kept := keepsSigmas_iff [] z.toList y.toList
  rw [and_iff_left (not_runsIn_nil _ _), ← lowerIn_eq_iff] at kept
  rw [holds, compareTexts_text, ok_true_iff, List.isPrefixOf_iff_prefix, lowerFrom_append_text,
    ← kept]
  constructor
  · intro begins
    have size : (lowerFrom [] y.toList).length = (lowerIn [] z.toList y.toList).length := by
      rw [← lowerIn_nil]
      exact length_lowerIn _ _ _ _ _
    have first :=
      List.prefix_of_prefix_length_le begins (List.prefix_append _ _) (Nat.le_of_eq size)
    exact (first.eq_of_length size).symm
  · intro same
    rw [same]
    exact List.prefix_append _ _

/-- A text ends with its own end unless a word of what stands before runs into that. -/
theorem endsWith_append_iff (x y : String) :
    holds .endsWith (.text (x ++ y)) (.text y) = .ok true ↔
      ¬ RunsIn x.toList.reverse y.toList [] := by
  have kept := keepsSigmas_iff x.toList.reverse [] y.toList
  rw [and_iff_right (not_runsOn_nil _), ← lowerIn_eq_iff] at kept
  rw [holds, compareTexts_text, ok_true_iff, List.isSuffixOf_iff_suffix, lowerFrom_append_text,
    ← kept, ← lowerIn_nil x.toList.reverse]
  constructor
  · intro ends
    have size : (lowerFrom [] y.toList).length
        = (lowerIn x.toList.reverse [] y.toList).length := by
      rw [← lowerIn_nil]
      exact length_lowerIn _ _ _ _ _
    have last := List.suffix_of_suffix_length_le ends (List.suffix_append _ _) (Nat.le_of_eq size)
    exact (last.eq_of_length size).symm
  · intro same
    rw [same]
    exact List.suffix_append _ _

/-- A text holds each of its parts into which no word runs and from which none runs on. -/
theorem occursIn_append {x y z : String} (on : ¬ RunsOn y.toList z.toList)
    (into : ¬ RunsIn x.toList.reverse y.toList z.toList) :
    occursIn (lowerFrom [] y.toList) (lowerFrom [] (x ++ y ++ z).toList) = true := by
  have same := (lowerIn_eq_iff _ _ _).mpr ((keepsSigmas_iff _ _ _).mpr ⟨on, into⟩)
  rw [occursIn_iff, String.toList_append, String.toList_append, List.append_assoc,
    lowerFrom_append, lowerFrom_append, List.append_nil, same]
  exact ⟨_, _, List.append_assoc _ _ _⟩

/-- A text that begins with another, ends with it or holds it in the middle is found to do so,
whatever the letters, unless a word that ends with a capital sigma crosses a border of the other
text and ends elsewhere with it than without.  At the two ends it is then not found. -/
theorem literal_found (x y z : String) :
    (holds .startsWith (.text (y ++ z)) (.text y) = .ok true ↔ ¬ RunsOn y.toList z.toList) ∧
    (holds .endsWith (.text (x ++ y)) (.text y) = .ok true ↔
      ¬ RunsIn x.toList.reverse y.toList []) ∧
    (¬ RunsOn y.toList z.toList → ¬ RunsIn x.toList.reverse y.toList z.toList →
      holds .contains (.text (x ++ y ++ z)) (.text y) = .ok true ∧
      holds .notContains (.text (x ++ y ++ z)) (.text y) = .ok false) := by
  refine ⟨startsWith_append_iff y z, endsWith_append_iff x y, fun on into => ?_⟩
  rw [holds, holds, compareTexts_text, compareTexts_text, occursIn_append on into]
  exact ⟨rfl, rfl⟩

/-- A street is found in its address, but not the last letter of the street in the street: by
itself a sigma ends no word. -/
theorem street_found :
    ¬ RunsOn "ΟΔΟΣ".toList " 5".toList ∧
      ¬ RunsIn "Η ".toList.reverse "ΟΔΟΣ".toList " 5".toList ∧
      holds .contains (.text ("Η " ++ "ΟΔΟΣ" ++ " 5")) (.text "ΟΔΟΣ") = .ok true ∧
      holds .endsWith (.text ("ΟΔΟ" ++ "Σ")) (.text "Σ") ≠ .ok true := by
  have on : ¬ RunsOn "ΟΔΟΣ".toList " 5".toList := fun on => absurd on.1 (by decide +kernel)
  have into : ¬ RunsIn "Η ".toList.reverse "ΟΔΟΣ".toList " 5".toList :=
    fun into => absurd into.1 (by decide +kernel)
  have cut : RunsIn "ΟΔΟ".toList.reverse "Σ".toList [] := ⟨by decide +kernel, [], [], rfl, rfl, rfl⟩
  exact ⟨on, into, ((literal_found "Η " "ΟΔΟΣ" " 5").2.2 on into).1,
    fun ends => (literal_found "ΟΔΟ" "Σ" "").2.1.mp ends cut⟩

end Condition
end RecordFlow
