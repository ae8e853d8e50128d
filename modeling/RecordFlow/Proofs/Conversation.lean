/-
# Conversations — what a program asks, and what it is told

A program that is under way with others finds the world changed before each of
its requests.  What it asked and was told is its conversation, kept in order
with the end that it came to.  `Talk` reads a conversation against the program:
`talk_ask_bind` takes it apart request by request, so what a program does is
told without a word about the world.
-/
import RecordFlow.Engine.Schedule

namespace RecordFlow

/-- A request and what it was answered with. -/
structure Said where
  request : Request
  answer : Except Failure request.Answer

namespace Said

/-- Whether a request was answered at all, rather than with a failure. -/
def IsOk (s : Said) : Prop := s.answer.isOk = true

instance (s : Said) : Decidable s.IsOk := inferInstanceAs (Decidable (_ = true))

/-- What went over the wire, or was waited for. -/
def wire? : Said → Option (String × WireEntry)
  | ⟨.beginExchange d headers content, _⟩ => some (d.url, .request d.method headers content)
  | ⟨.pause url delay, _⟩ => some (url, .pause delay)
  | _ => none

/-- The delivery that was saved. -/
def saved? : Said → Option Delivery
  | ⟨.saveDelivery d, _⟩ => some d
  | _ => none

/-- What the holders of the delivery were let see. -/
def shown? : Said → Option Delivery
  | ⟨.publishDelivery d, _⟩ => some d
  | _ => none

/-- How an exchange ended. -/
def outcome? : Said → Option Exchange
  | ⟨.endExchange _, .ok outcome⟩ => some outcome
  | _ => none

end Said

/-- How a program fared: its conversation, its end, and the world it left. -/
structure Fared (α : Type) where
  said : List Said
  ended : Except Failure α
  world : World

namespace Prog

variable {α β : Type}

/-- Runs a program while others change the world before each of its requests. -/
def amid (others : Nat → World → World) : Prog α → Nat → World → Fared α
  | done a, _, w => ⟨[], .ok a, w⟩
  | fail e, _, w => ⟨[], .error e, w⟩
  | call r rest, turn, w =>
    let (x, w) := (others turn w).answer r
    let onward := (rest x).amid others (turn + 1) w
    { onward with said := ⟨r, x⟩ :: onward.said }

/-- A program says this much, is answered so, and comes to this end. -/
def Talk : Prog α → List Said → Except Failure α → Prop
  | done a, said, x => said = [] ∧ x = .ok a
  | fail e, said, x => said = [] ∧ x = .error e
  | call r rest, said, x => ∃ a later, said = ⟨r, a⟩ :: later ∧ (rest a).Talk later x

/-- Whatever the others do, what comes about is a conversation of the program. -/
theorem talk_amid (others : Nat → World → World) (p : Prog α) (turn : Nat) (w : World) :
    p.Talk (p.amid others turn w).said (p.amid others turn w).ended := by
  induction p generalizing turn w with
  | done a => exact ⟨rfl, rfl⟩
  | fail e => exact ⟨rfl, rfl⟩
  | call r rest ih => exact ⟨_, _, rfl, ih _ _ _⟩

/-- A request that is answered stands first, and the rest follows. -/
theorem talk_ask_bind {r : Request} {rest : r.Answer → Prog β} {said : List Said}
    {x : Except Failure β} (h : (ask r >>= rest).Talk said x) (ok : ∀ s ∈ said, s.IsOk) :
    ∃ a later, said = ⟨r, .ok a⟩ :: later ∧ (rest a).Talk later x ∧ ∀ s ∈ later, s.IsOk := by
  obtain ⟨a | a, later, rfl, h⟩ := h
  · exact absurd (ok ⟨r, .error a⟩ (by simp)) Bool.false_ne_true
  · exact ⟨a, later, rfl, h, fun s hs => ok s (List.mem_cons_of_mem _ hs)⟩

theorem ofExcept_ok_bind (a : α) (rest : α → Prog β) :
    (ofExcept (.ok a) >>= rest) = rest a := rfl

/-- A request at the end that is answered is all that is said. -/
theorem talk_ask {r : Request} {said : List Said} {x : Except Failure r.Answer}
    (h : (ask r).Talk said x) (ok : ∀ s ∈ said, s.IsOk) :
    ∃ a, said = [⟨r, .ok a⟩] ∧ x = .ok a := by
  obtain ⟨a | a, later, rfl, h⟩ := h
  · exact absurd (ok ⟨r, .error a⟩ (by simp)) Bool.false_ne_true
  · obtain ⟨rfl, rfl⟩ := h
    exact ⟨a, rfl, rfl⟩

end Prog

end RecordFlow
