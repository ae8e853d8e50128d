/-
# Holders — entries in the hands of the work that writes them

The entries of the memory store are told apart by identifiers that are issued
one after the other.  Of the pieces of work that are under way some have an
entry in hand, and no two of them the same.  How far such a piece is with its
entry is the business of a code of conduct; here a phase counts only for the
entry that is in hand.

An entry comes into a hand where it is opened, `Holders.opened`, and what is
shown of it by the hand that has it takes its place, `Holders.shown`.
-/
import RecordFlow.Proofs.Claims

namespace RecordFlow

/-- Entries are told apart, under no identifier that is yet to be issued, and what is in hand is
among them, in one hand each. -/
structure Holders {φ : Type} (inHand? : φ → Option Execution) (es : List Execution) (issued : Nat)
    (ps : List φ) : Prop where
  once : (es.map Execution.id).Nodup
  issued : ∀ e ∈ es, ∀ n, e.id = .issued n → n ≤ issued
  there : ∀ p ∈ ps, ∀ e, inHand? p = some e → e ∈ es
  apart : (ps.filterMap fun p => (inHand? p).map Execution.id).Nodup

namespace Holders

variable {φ : Type} {inHand? : φ → Option Execution} {es : List Execution} {issued : Nat}
  {before after ps : List φ} {p q : φ} {e e' : Execution}

/-- Hands are apart, with a hand that has an entry among others, just when no other has the same. -/
theorem apart_middle (has : inHand? p = some e) :
    ((before ++ p :: after).filterMap fun p => (inHand? p).map Execution.id).Nodup ↔
      (∀ q ∈ before ++ after, (inHand? q).map Execution.id ≠ some e.id) ∧
        ((before ++ after).filterMap fun p => (inHand? p).map Execution.id).Nodup := by
  have perm : (before ++ p :: after).Perm (p :: (before ++ after)) := List.perm_middle
  have some : (inHand? p).map Execution.id = some e.id := congrArg (Option.map Execution.id) has
  rw [(perm.filterMap _).nodup_iff,
    List.filterMap_cons_some (f := fun p => (inHand? p).map Execution.id) some, List.nodup_cons,
    List.mem_filterMap]
  refine and_congr_left fun _ => ?_
  constructor
  · intro none q hq same
    exact none ⟨q, hq, same⟩
  · rintro others ⟨q, hq, same⟩
    exact others q hq same

theorem later {issued' : Nat} (h : Holders inHand? es issued ps) (later : issued ≤ issued') :
    Holders inHand? es issued' ps :=
  { h with issued := fun e he n hn => Nat.le_trans (h.issued e he n hn) later }

/-- Work that has nothing in hand begins. -/
theorem begun (h : Holders inHand? es issued ps) (none : inHand? p = none) :
    Holders inHand? es issued (ps ++ [p]) where
  once := h.once
  issued := h.issued
  there q hq e has := by
    rcases List.mem_append.mp hq with hq | hq
    · exact h.there q hq e has
    · obtain rfl := List.mem_singleton.mp hq
      rw [none] at has
      cases has
  apart := by
    have silent : [p].filterMap (fun p => (inHand? p).map Execution.id) = [] := by simp [none]
    rw [List.filterMap_append, silent, List.append_nil]
    exact h.apart

/-- Work goes on with the same in hand. -/
theorem pass (h : Holders inHand? es issued (before ++ p :: after)) (same : inHand? q = inHand? p) :
    Holders inHand? es issued (before ++ q :: after) where
  once := h.once
  issued := h.issued
  there := by
    obtain ⟨here, others⟩ := forall_mem_middle.mp h.there
    exact forall_mem_middle.mpr ⟨same ▸ here, others⟩
  apart := by
    have apart := h.apart
    simp only [List.filterMap_append, List.filterMap_cons, same] at apart ⊢
    exact apart

/-- An identifier that is issued next is none of those in use. -/
theorem fresh (h : Holders inHand? es issued ps) :
    RecordId.issued (issued + 1) ∉ es.map Execution.id := by
  intro there
  obtain ⟨e, he, same⟩ := List.mem_map.mp there
  exact Nat.not_succ_le_self _ (h.issued e he _ same)

/-- A new entry comes into a hand, under the identifier that is issued next. -/
theorem opened (h : Holders inHand? es issued (before ++ p :: after))
    (id : e.id = .issued (issued + 1)) (has : inHand? q = some e) :
    Holders inHand? (es ++ [e]) (issued + 1) (before ++ q :: after) := by
  have others := (forall_mem_middle.mp h.there).2
  exact {
    once := nodup_keys_append h.once (id ▸ h.fresh)
    issued := by
      intro x hx n hn
      rcases List.mem_append.mp hx with hx | hx
      · exact Nat.le_succ_of_le (h.issued x hx n hn)
      · obtain rfl := List.mem_singleton.mp hx
        obtain rfl := RecordId.issued.inj (hn.symm.trans id)
        exact Nat.le_refl _
    there := by
      refine forall_mem_middle.mpr ⟨?_, fun r hr x hx => List.mem_append_left _ (others r hr x hx)⟩
      intro x hx
      obtain rfl := Option.some.inj (hx.symm.trans has)
      exact List.mem_append_right _ (List.mem_singleton_self x)
    apart := by
      refine (apart_middle has).mpr ⟨?_, h.apart.sublist ((sublist_middle _ _ _).filterMap _)⟩
      intro r hr same
      obtain ⟨x, hx, sameId⟩ := Option.map_eq_some_iff.mp same
      exact h.fresh (List.mem_map.mpr ⟨x, others r hr x hx, sameId.trans id⟩) }

section Shown

variable (h : Holders inHand? es issued (before ++ p :: after)) (had : inHand? p = some e)
include h had

theorem mem : e ∈ es := (forall_mem_middle.mp h.there).1 e had

/-- No other hand has the entry. -/
theorem alone : ∀ q ∈ before ++ after, (inHand? q).map Execution.id ≠ some e.id :=
  ((apart_middle had).mp h.apart).1

/-- What is shown of an entry takes its place, among others that stay. -/
theorem exists_place (id : e'.id = e.id) : ∃ front back, es = front ++ e :: back ∧
    Keyed.modify Execution.id e'.id (fun _ => e') es = front ++ e' :: back := by
  obtain ⟨front, back, rfl⟩ := List.append_of_mem (h.mem had)
  exact ⟨front, back, rfl, id ▸ Keyed.modify_middle h.once⟩

/-- What is shown of an entry by the hand that has it takes its place. -/
theorem shown (id : e'.id = e.id) (has : inHand? q = some e') :
    Holders inHand? (Keyed.modify Execution.id e'.id (fun _ => e') es) issued
      (before ++ q :: after) := by
  obtain ⟨alone, apart⟩ := (apart_middle had).mp h.apart
  have others := (forall_mem_middle.mp h.there).2
  exact {
    once := by
      rw [map_modify_kept fun _ _ same => same.symm]
      exact h.once
    issued := by
      intro x hx n hn
      rcases Keyed.mem_modify hx with rfl | ⟨hx, _⟩
      · exact h.issued e (h.mem had) n (id ▸ hn)
      · exact h.issued x hx n hn
    there := by
      refine forall_mem_middle.mpr ⟨?_, ?_⟩
      · intro x hx
        obtain rfl := Option.some.inj (hx.symm.trans has)
        exact id ▸ Keyed.mem_modify_self (h.mem had)
      · intro r hr x hx
        refine Keyed.mem_modify_of_ne (others r hr x hx) fun same => alone r hr ?_
        rw [hx, Option.map_some, same, id]
    apart := (apart_middle has).mpr ⟨fun r hr => id ▸ alone r hr, apart⟩ }

end Shown

end Holders

end RecordFlow
