/-
# Programs — the engine's work as trees of requests

A program is a tree: a leaf ends it, with a value or with a failure, and a
node makes a request and has one branch for every answer.  Trees are finite
along every branch, so whatever answers come, a program comes to an end; the
monad laws say that it does not matter how a program is put together.
-/
import RecordFlow.Engine.Request

namespace RecordFlow

/-- A program: it ends with a value, stops with a failure, or makes a request and goes on
with the answer, which may itself be a failure. -/
inductive Prog (α : Type) where
  | done (value : α)
  | fail (failure : Failure)
  | call (request : Request) (rest : Except Failure request.Answer → Prog α)

namespace Prog

/-- One program after another. -/
def bind {α β : Type} (p : Prog α) (next : α → Prog β) : Prog β :=
  match p with
  | done a => next a
  | fail e => fail e
  | call r rest => call r fun answer => (rest answer).bind next

instance : Monad Prog where
  pure := done
  bind := bind

/-- Makes one request; a failed answer stops the program. -/
def ask (r : Request) : Prog r.Answer :=
  call r fun
    | .ok a => done a
    | .error e => fail e

/-- A program that never stops with a failure but ends with it. -/
def attempt {α : Type} : Prog α → Prog (Except Failure α)
  | done a => done (.ok a)
  | fail e => done (.error e)
  | call r rest => call r fun answer => (rest answer).attempt

/-- A value or the failure that took its place. -/
def ofExcept {α : Type} : Except Failure α → Prog α
  | .ok a => done a
  | .error e => fail e

theorem bind_done {α : Type} (p : Prog α) : p.bind done = p := by
  induction p with
  | done a => rfl
  | fail e => rfl
  | call r rest ih => simp only [bind]; congr 1; funext answer; exact ih answer

theorem bind_assoc {α β γ : Type} (p : Prog α) (f : α → Prog β) (g : β → Prog γ) :
    (p.bind f).bind g = p.bind fun a => (f a).bind g := by
  induction p with
  | done a => rfl
  | fail e => rfl
  | call r rest ih => simp only [bind]; congr 1; funext answer; exact ih answer

instance : LawfulMonad Prog :=
  LawfulMonad.mk' Prog bind_done (fun _ _ => rfl) bind_assoc (fun _ _ => rfl) (fun _ _ => rfl)
    (fun _ _ => rfl) (fun _ _ => rfl) (fun _ _ => rfl)

end Prog
end RecordFlow
