/-
# Schedule — programs against the world

A program runs against a world by having its requests answered one after the
other.  Work in the background is made of tasks that take turns: a task goes on
until it ends or lets the others go on first, as a delivery does while it waits
for its next attempt.  A system is a world with the calls and tasks under way in
it; it moves when any of them that can go on makes its next request, so its
reachable states are those of every interleaving.
-/
import RecordFlow.Engine.World
import RecordFlow.Engine.Dispatch
import RecordFlow.Engine.Deliver

namespace RecordFlow

namespace Prog

/-- Runs a program to its end. -/
def run {α : Type} : Prog α → World → Except Failure α × World
  | done a, w => (.ok a, w)
  | fail e, w => (.error e, w)
  | call r rest, w =>
    let (x, w) := w.answer r
    (rest x).run w

/-- Whether a request lets the others go on first. -/
def yields : Request → Bool
  | .pause .. | .giveWay => true
  | _ => false

/-- Runs a program until it ends, lets the others go on, or cannot go on; what is left of it,
and the world. -/
def runTurn : Prog Unit → World → Option (Prog Unit) × World
  | done _, w => (none, w)
  | fail _, w => (none, w)
  | call r rest, w =>
    if w.isReady r then
      let (x, w) := w.answer r
      if yields r then (some (rest x), w) else (rest x).runTurn w
    else (some (call r rest), w)

end Prog

/-- The program of work in the background. -/
def Background.program (settings : Settings) : Background → Prog Unit
  | run q => Dispatch.background settings q
  | delivery job => Deliver.background settings job

namespace Background

/-- Whether the work is a run. -/
def isRun : Background → Bool
  | run _ => true
  | delivery _ => false

end Background

namespace World

/-- How many runs have not begun. -/
def pendingRuns (w : World) : Nat := (w.queue.filter Background.isRun).length

/-- How many deliveries have not begun. -/
def pendingDeliveries (w : World) : Nat := (w.queue.filter (!·.isRun)).length

/-- The programs of the work in the queue, and the world without it. -/
def takeQueue (settings : Settings) (w : World) : List (Prog Unit) × World :=
  (w.queue.map (·.program settings), { w with queue := [] })

/-- One turn for each task in order: the tasks for the next round, work started meanwhile
included, and the world. -/
def round (settings : Settings) : List (Prog Unit) → World → List (Prog Unit) × World
  | [], w => ([], w)
  | task :: tasks, w =>
    let (left, w) := task.runTurn w
    let (begun, w) := w.takeQueue settings
    let (others, w) := round settings tasks w
    (begun ++ left.toList ++ others, w)

/-- Rounds until no task is left, as many as the fuel has steps. -/
def rounds (settings : Settings) : (fuel : Nat) → List (Prog Unit) → World → World
  | 0, _, w => w
  | _, [], w => w
  | fuel + 1, tasks, w =>
    let (tasks, w) := round settings tasks w
    rounds settings fuel tasks w

/-- Carries all work in the background to its end.  A run ends in its first turn; a delivery
needs one turn for every attempt, and one more to report a crash. -/
def drain (settings : Settings) (w : World) : World :=
  let (tasks, w) := w.takeQueue settings
  rounds settings ((settings.webhookMaxRetries + 1).toNat + 3) tasks w

end World

/-! ## Interleavings -/

/-- Work in the background that has begun, with what is left of it. -/
structure Task where
  work : Background
  left : Prog Unit

/-- A world with what is under way in it. -/
structure System (α : Type) where
  world : World
  /-- The calls made from outside, with what is left of them. -/
  calls : List (Prog α)
  tasks : List Task

namespace System

/-- A system moves when a call or a task makes its next request, when work that was started in
the background begins, or when the world is changed from outside. -/
inductive Step {α : Type} (settings : Settings) (outside : World → World → Prop) :
    System α → System α → Prop where
  | call (w : World) (before after : List (Prog α)) (tasks : List Task) (r : Request)
      (rest : Except Failure r.Answer → Prog α) (ready : w.isReady r = true) :
      Step settings outside ⟨w, before ++ .call r rest :: after, tasks⟩
        ⟨(w.answer r).2, before ++ rest (w.answer r).1 :: after, tasks⟩
  | task (w : World) (calls : List (Prog α)) (before after : List Task) (work : Background)
      (r : Request) (rest : Except Failure r.Answer → Prog Unit) (ready : w.isReady r = true) :
      Step settings outside ⟨w, calls, before ++ ⟨work, .call r rest⟩ :: after⟩
        ⟨(w.answer r).2, calls, before ++ ⟨work, rest (w.answer r).1⟩ :: after⟩
  | begin (w : World) (calls : List (Prog α)) (tasks : List Task)
      (before after : List Background) (work : Background)
      (queued : w.queue = before ++ work :: after) :
      Step settings outside ⟨w, calls, tasks⟩
        ⟨{ w with queue := before ++ after }, calls, tasks ++ [⟨work, work.program settings⟩]⟩
  | change (w w' : World) (calls : List (Prog α)) (tasks : List Task) (allowed : outside w w') :
      Step settings outside ⟨w, calls, tasks⟩ ⟨w', calls, tasks⟩

/-- The states that a system can come to. -/
inductive Reachable {α : Type} (settings : Settings) (outside : World → World → Prop)
    (start : System α) : System α → Prop where
  | refl : Reachable settings outside start start
  | step {s t : System α} : Reachable settings outside start s → Step settings outside s t →
      Reachable settings outside start t

/-- What holds at the start and is kept by every step holds in every state. -/
theorem Reachable.keeps {α : Type} {settings : Settings} {outside : World → World → Prop}
    {start s : System α} (reachable : Reachable settings outside start s)
    {holds : System α → Prop} (atStart : holds start)
    (kept : ∀ s t, Step settings outside s t → holds s → holds t) : holds s := by
  induction reachable with
  | refl => exact atStart
  | step _ move ih => exact kept _ _ move ih

end System
end RecordFlow
