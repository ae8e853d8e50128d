/-
# Retries — how a delivery goes on until it ends

A delivery makes its attempts one after the other, with a pause that doubles,
up to the first whose outcome is not retryable or up to the last that the
settings allow.  What it says is told from the outcomes alone: what goes over
the wire, which entries are saved, and the entry that is left.

The pause is a number in floating point.  Where it cannot be computed, because
the power of two lies beyond all floating-point numbers, the delivery stops
with a failure and its entry stays pending; this is told as well.
-/
import RecordFlow.Proofs.Conversation
import RecordFlow.Proofs.Exactness

namespace RecordFlow

/-! ## Doubling -/

namespace Settings

/-- The pause after an attempt is the backoff times a power of two, as long as there is a number
in floating point for it. -/
def IsPause (s : Settings) (attempt : Nat) (delay : Binary64) : Prop :=
  match s.webhookRetryBackoff with
  | .whole n => Binary64.ofInt? (n * 2 ^ (attempt - 1)) = some delay
  | .real x => attempt ≤ 1024 ∧ delay = x.timesTwoPow (attempt - 1)

theorem isPause_of_pauseAfter {s : Settings} {attempt : Nat} {delay : Binary64} :
    s.pauseAfter attempt = .ok delay → s.IsPause attempt delay := by
  intro h
  unfold IsPause
  revert h
  fun_cases pauseAfter s attempt
  case case1 n backoff x number =>
    intro h
    rw [backoff]
    exact Except.ok.inj h ▸ number
  case case2 => exact nofun
  case case3 x backoff few =>
    intro h
    rw [backoff]
    exact ⟨few, (Except.ok.inj h).symm⟩
  case case4 => exact nofun

/-- A backoff in floating point has no pause after attempt 1025, and has one after every attempt
before. -/
theorem stuck_of_real {s : Settings} {x : Binary64} {stuck : Nat} {failure : Failure}
    (backoff : s.webhookRetryBackoff = .real x)
    (paced : ∀ i, 1 ≤ i → i < stuck → ∃ delay, s.pauseAfter i = .ok delay)
    (unpaced : s.pauseAfter stuck = .error failure) : stuck = 1025 := by
  have iff (i : Nat) : (∃ delay, s.pauseAfter i = .ok delay) ↔ i ≤ 1024 := by
    simp only [pauseAfter, backoff]
    split <;> simp [*]
  have above : ¬ stuck ≤ 1024 := by
    rw [← iff]
    rintro ⟨delay, paced⟩
    cases paced.symm.trans unpaced
  have below : ¬ 1025 < stuck := fun beyond =>
    absurd ((iff 1025).mp (paced 1025 (by omega) beyond)) (by omega)
  omega

end Settings

/-! ## Outcomes -/

namespace Exchange

/-- The status of the response, if one came. -/
def status? : Exchange → Option Int
  | answered status => some status
  | _ => none

/-- What is said of an exchange that did not deliver. -/
def complaint : Exchange → String
  | answered status => "HTTP " ++ toString status
  | broken name said | refused name said | crashed name said => name ++ ": " ++ said

/-- Whether a request came to an outcome: a response, a failure of the transport or a refusal,
but no failure of the client itself. -/
def IsOutcome : Exchange → Prop
  | crashed .. => False
  | _ => True

/-- Whether a response came whose status tells of no failure. -/
def Arrived (x : Exchange) : Prop := ∃ status, x = answered status ∧ ¬ (400 ≤ status ∧ status ≤ 599)

end Exchange

/-- Whether what went over the wire is a request, and no pause. -/
def WireEntry.isRequest : WireEntry → Bool
  | request .. => true
  | pause _ => false

namespace Delivery

/-- The entry after an attempt that did not deliver. -/
def afterMiss (d : Delivery) (attempt : Nat) (outcome : Exchange) : Delivery :=
  (d.attempting attempt).missed outcome.status? outcome.complaint

/-- The entry of a delivery that has been submitted. -/
structure IsFresh (d : Delivery) : Prop where
  pending : d.status = .known .pending
  attempts : d.attempts = 0
  completedAt : d.completedAt = none

/-- An entry closed after its last attempt. -/
structure Closed (first d : Delivery) (attempts : Nat) (outcome : Exchange) : Prop where
  id : d.id = first.id
  attempts : d.attempts = attempts
  completed : d.completedAt.isSome = true
  responded : d.responseStatus = outcome.status?
  delivered : d.status = .known .delivered ∧ d.error = none ↔ outcome.Arrived
  failed : ¬ outcome.Arrived → d.status = .known .failed ∧ d.error.isSome = true

/-- An entry of a delivery that goes on. -/
def IsOpen (d : Delivery) : Prop := d.status = .known .pending ∧ d.completedAt = none

end Delivery

namespace Deliver

open Prog (ask attempt ofExcept)

/-- The number of the last attempt: the outcomes before it are retryable, and its own is not, or
the settings allow no further one. -/
structure IsLast (outcome : Nat → Exchange) (retries last : Nat) : Prop where
  first : 1 ≤ last
  within : last ≤ retries + 1
  before : ∀ i, 1 ≤ i → i < last → (outcome i).isRetryable = true
  stops : (outcome last).isRetryable = false ∨ last = retries + 1

/-- A conversation in which every request is answered, and the exchanges end as the outcomes
tell, from a first number on. -/
structure Answered (outcome : Nat → Exchange) (first : Nat) (said : List Said) : Prop where
  ok : ∀ s ∈ said, s.IsOk
  outcomes : said.filterMap Said.outcome? =
    (List.range' first (said.filterMap Said.outcome?).length).map outcome

theorem delivering?_eq_some {x : Exchange} {status : Int} :
    delivering? x = some status ↔ x = .answered status ∧ ¬ (400 ≤ status ∧ status ≤ 599) := by
  cases x with
  | answered given =>
      simp only [delivering?, Exchange.isServerError, Exchange.isClientError,
        Option.ite_none_left_eq_some, Bool.or_eq_true, Bool.and_eq_true, decide_eq_true_eq,
        Option.some.injEq, Exchange.answered.injEq]
      omega
  | _ => simp [delivering?]

theorem delivering?_eq_none {x : Exchange} : delivering? x = none ↔ ¬ x.Arrived := by
  rw [Option.eq_none_iff_forall_ne_some]
  exact ⟨fun h ⟨status, hx⟩ => h status (delivering?_eq_some.mpr hx),
    fun h status hx => h ⟨status, delivering?_eq_some.mp hx⟩⟩

theorem trace_outcome {d : Delivery} {attempt : Nat} {x : Exchange} (outcome : x.IsOutcome) :
    trace (d.attempting attempt) x = .ok (d.afterMiss attempt x) := by
  cases x with
  | crashed name said => exact outcome.elim
  | _ => rfl

theorem not_arrived_of_retryable {x : Exchange} (again : x.isRetryable = true) : ¬ x.Arrived := by
  rintro ⟨status, rfl, outside⟩
  simp only [Exchange.isRetryable, Exchange.isServerError, Bool.and_eq_true,
    decide_eq_true_eq] at again
  omega

theorem Answered.later {outcome : Nat → Exchange} {number : Nat} {first later : List Said}
    (h : Answered outcome number (first ++ later)) (plain : ∀ s ∈ first, s.outcome? = none) :
    Answered outcome number later := by
  refine ⟨fun t ht => h.ok t (List.mem_append_right _ ht), ?_⟩
  have same := h.outcomes
  rwa [List.filterMap_append, List.filterMap_eq_nil_iff.mpr plain, List.nil_append] at same

theorem Answered.exchanged {outcome : Nat → Exchange} {first : Nat} {url : String} {x : Exchange}
    {later : List Said} (h : Answered outcome first (⟨.endExchange url, .ok x⟩ :: later)) :
    x = outcome first ∧ Answered outcome (first + 1) later := by
  have same : x :: later.filterMap Said.outcome? =
      (List.range' first ((later.filterMap Said.outcome?).length + 1)).map outcome := h.outcomes
  rw [List.range'_succ, List.map_cons] at same
  obtain ⟨here, onward⟩ := List.cons.inj same
  exact ⟨here, fun t ht => h.ok t (List.mem_cons_of_mem _ ht), onward⟩

/-! ## What each part says -/

/-- What a request puts on the wire. -/
def onWire (job : QueuedDelivery) (d : Delivery) : String × WireEntry :=
  (d.url, .request d.method job.headers job.content)

/-- A conversation told by what it puts on the wire, what it saves, and what it leaves to be
seen. -/
structure Tells (said : List Said) (wire : List (String × WireEntry)) (saved : List Delivery)
    (seen : Option Delivery) : Prop where
  wire : said.filterMap Said.wire? = wire
  saved : said.filterMap Said.saved? = saved
  seen : (said.filterMap Said.shown?).getLast? = seen

theorem Tells.append {first later : List Said} {wire wire' : List (String × WireEntry)}
    {saved saved' : List Delivery} {seen seen' : Option Delivery}
    (h : Tells first wire saved seen) (h' : Tells later wire' saved' seen') :
    Tells (first ++ later) (wire ++ wire') (saved ++ saved') (seen'.or seen) := by
  refine ⟨?_, ?_, ?_⟩
  · rw [List.filterMap_append, h.wire, h'.wire]
  · rw [List.filterMap_append, h.saved, h'.saved]
  · rw [List.filterMap_append, List.getLast?_append, h.seen, h'.seen]

theorem giveUp_talk {d : Delivery} {said : List Said} {x : Except Failure Unit}
    (h : (giveUp d).Talk said x) (ok : ∀ s ∈ said, s.IsOk) :
    x = .ok () ∧ ∃ now, Tells said [] [d.givenUp now] (some (d.givenUp now)) := by
  obtain ⟨now, _, rfl, h, ok⟩ := Prog.talk_ask_bind h ok
  obtain ⟨_, _, rfl, h, ok⟩ := Prog.talk_ask_bind h ok
  obtain ⟨_, _, rfl, h, ok⟩ := Prog.talk_ask_bind h ok
  obtain ⟨_, rfl, rfl⟩ := Prog.talk_ask h ok
  exact ⟨rfl, now, rfl, rfl, rfl⟩

theorem arrive_talk {d : Delivery} {status : Int} {said : List Said} {x : Except Failure Unit}
    (h : (arrive d status).Talk said x) (ok : ∀ s ∈ said, s.IsOk) :
    x = .ok () ∧
      ∃ now, Tells said [] [d.delivered status now] (some (d.delivered status now)) := by
  obtain ⟨now, _, rfl, h, ok⟩ := Prog.talk_ask_bind h ok
  obtain ⟨_, _, rfl, h, ok⟩ := Prog.talk_ask_bind h ok
  obtain ⟨_, _, rfl, h, ok⟩ := Prog.talk_ask_bind h ok
  obtain ⟨_, rfl, rfl⟩ := Prog.talk_ask h ok
  exact ⟨rfl, now, rfl, rfl, rfl⟩

/-- What follows an exchange. -/
def goOn (settings : Settings) (job : QueuedDelivery) (d : Delivery) (attempt left : Nat)
    (outcome : Exchange) : Prog Unit :=
  match delivering? outcome with
  | some status => arrive d status
  | none => do
    let d ← ofExcept (trace d outcome)
    if outcome.isRetryable && left != 0 then
      waitForNext settings d attempt
      attempts settings job d (attempt + 1) left
    else giveUp d

variable {settings : Settings} {job : QueuedDelivery} {d : Delivery} {attempt left : Nat}
  {outcome : Nat → Exchange} {said : List Said} {x : Except Failure Unit}

/-- An attempt begins with its request, and goes on with what came of it. -/
theorem attempts_talk (h : (attempts settings job d attempt (left + 1)).Talk said x)
    (answered : Answered outcome attempt said) :
    ∃ first later, said = first ++ later ∧
      Tells first [onWire job d] [] (some (d.attempting attempt)) ∧
      (goOn settings job (d.attempting attempt) attempt left (outcome attempt)).Talk later x ∧
      Answered outcome (attempt + 1) later := by
  obtain ⟨_, _, rfl, h, ok⟩ := Prog.talk_ask_bind h answered.ok
  rw [exchange, bind_assoc] at h
  obtain ⟨_, _, rfl, h, ok⟩ := Prog.talk_ask_bind h ok
  obtain ⟨y, _, rfl, h, ok⟩ := Prog.talk_ask_bind h ok
  have before : Answered outcome attempt ([_, _] ++ _) := answered
  obtain ⟨rfl, onward⟩ := (before.later (by simp [Said.outcome?])).exchanged
  exact ⟨[_, _, _], _, rfl, ⟨rfl, rfl, rfl⟩, h, onward⟩

/-- Where no other attempt follows, the entry is closed. -/
theorem goOn_last {y : Exchange} (tame : y.IsOutcome)
    (stops : (y.isRetryable && left != 0) = false)
    (h : (goOn settings job (d.attempting attempt) attempt left y).Talk said x)
    (ok : ∀ s ∈ said, s.IsOk) :
    x = .ok () ∧ ∃ final, d.Closed final attempt y ∧ Tells said [] [final] (some final) := by
  unfold goOn at h
  split at h
  case h_1 status arrives =>
    obtain ⟨rfl, outside⟩ := delivering?_eq_some.mp arrives
    obtain ⟨ended, now, tells⟩ := arrive_talk h ok
    refine ⟨ended, (d.attempting attempt).delivered status now, ⟨rfl, rfl, rfl, rfl, ?_, ?_⟩, tells⟩
    · exact ⟨fun _ => ⟨status, rfl, outside⟩, fun _ => ⟨rfl, rfl⟩⟩
    · exact fun missed => absurd ⟨status, rfl, outside⟩ missed
  case h_2 missed =>
    rw [trace_outcome tame, Prog.ofExcept_ok_bind] at h
    replace h : (giveUp (d.afterMiss attempt y)).Talk said x := by
      simpa only [stops, Bool.false_eq_true, if_false] using h
    obtain ⟨ended, now, tells⟩ := giveUp_talk h ok
    refine ⟨ended, (d.afterMiss attempt y).givenUp now, ⟨rfl, rfl, rfl, rfl, ?_, ?_⟩, tells⟩
    · exact ⟨fun same => (nomatch same.1), fun arrived =>
        absurd arrived (delivering?_eq_none.mp missed)⟩
    · exact fun _ => ⟨rfl, rfl⟩

/-- Where another attempt follows, the entry is saved as it is, and the pause is waited for if
it can be computed. -/
theorem goOn_again {y : Exchange} (tame : y.IsOutcome) (again : y.isRetryable = true)
    (more : left ≠ 0)
    (h : (goOn settings job (d.attempting attempt) attempt left y).Talk said x)
    (ok : ∀ s ∈ said, s.IsOk) :
    (∃ f, settings.pauseAfter attempt = .error f ∧ x = .error f ∧
      Tells said [] [d.afterMiss attempt y] (some (d.afterMiss attempt y))) ∨
    ∃ pause first later, settings.pauseAfter attempt = .ok pause ∧ said = first ++ later ∧
      Tells first [(d.url, .pause pause)] [d.afterMiss attempt y] (some (d.afterMiss attempt y)) ∧
      (attempts settings job (d.afterMiss attempt y) (attempt + 1) left).Talk later x ∧
      (∀ s ∈ first, s.outcome? = none) := by
  have missed : delivering? y = none := delivering?_eq_none.mpr (not_arrived_of_retryable again)
  unfold goOn at h
  simp only [missed, trace_outcome tame, Prog.ofExcept_ok_bind] at h
  replace h : (waitForNext settings (d.afterMiss attempt y) attempt >>= fun _ =>
      attempts settings job (d.afterMiss attempt y) (attempt + 1) left).Talk said x := by
    simpa only [again, bne_iff_ne.mpr more, Bool.and_self, if_true] using h
  rw [waitForNext] at h
  simp only [bind_assoc] at h
  obtain ⟨_, _, rfl, h, ok⟩ := Prog.talk_ask_bind h ok
  obtain ⟨_, _, rfl, h, ok⟩ := Prog.talk_ask_bind h ok
  obtain ⟨_, _, rfl, h, ok⟩ := Prog.talk_ask_bind h ok
  cases paced : settings.pauseAfter attempt with
  | error f =>
      rw [paced] at h
      obtain ⟨rfl, rfl⟩ := h
      exact .inl ⟨f, rfl, rfl, rfl, rfl, rfl⟩
  | ok pause =>
      rw [paced] at h
      obtain ⟨_, _, rfl, h, ok⟩ := Prog.talk_ask_bind h ok
      exact .inr ⟨pause, [_, _, _, _], _, rfl, rfl, ⟨rfl, rfl, rfl⟩, h, by simp [Said.outcome?]⟩

/-! ## Rounds -/

/-- What goes over the wire in the attempts before the last. -/
def wireBefore (job : QueuedDelivery) (d : Delivery) (pause : Nat → Binary64) (first rounds : Nat) :
    List (String × WireEntry) :=
  (List.range' first rounds).flatMap fun i => [onWire job d, (d.url, .pause (pause i))]

/-- The entries saved in the attempts before the last. -/
def savedBefore (d : Delivery) (outcome : Nat → Exchange) (first rounds : Nat) : List Delivery :=
  (List.range' first rounds).map fun i => d.afterMiss i (outcome i)

/-- A round that is followed by another. -/
theorem round_talk {pause : Binary64} (tame : (outcome attempt).IsOutcome)
    (again : (outcome attempt).isRetryable = true) (more : left ≠ 0)
    (paced : settings.pauseAfter attempt = .ok pause)
    (h : (attempts settings job d attempt (left + 1)).Talk said x)
    (answered : Answered outcome attempt said) :
    ∃ first later seen, said = first ++ later ∧
      Tells first [onWire job d, (d.url, .pause pause)] [d.afterMiss attempt (outcome attempt)]
        seen ∧
      (attempts settings job (d.afterMiss attempt (outcome attempt)) (attempt + 1) left).Talk
        later x ∧
      Answered outcome (attempt + 1) later := by
  obtain ⟨asked, _, rfl, tells, h, onward⟩ := attempts_talk h answered
  rcases goOn_again tame again more h onward.ok with
    ⟨f, failed, _⟩ | ⟨_, waited, later, same, rfl, tells', h, plain⟩
  · cases failed.symm.trans paced
  · obtain rfl := Except.ok.inj (same.symm.trans paced)
    exact ⟨asked ++ waited, later, _, (List.append_assoc ..).symm, tells.append tells', h,
      onward.later plain⟩

/-- Rounds one after the other, as many as have a retryable outcome and a pause. -/
theorem rounds_talk {pause : Nat → Binary64} (tame : ∀ i, (outcome i).IsOutcome) {rounds : Nat}
    (again : ∀ i, attempt ≤ i → i < attempt + rounds → (outcome i).isRetryable = true)
    (paced : ∀ i, attempt ≤ i → i < attempt + rounds → settings.pauseAfter i = .ok (pause i))
    (h : (attempts settings job d attempt (left + rounds + 1)).Talk said x)
    (answered : Answered outcome attempt said) :
    ∃ e first later seen, said = first ++ later ∧
      (∀ i y, e.afterMiss i y = d.afterMiss i y) ∧
      Tells first (wireBefore job d pause attempt rounds) (savedBefore d outcome attempt rounds)
        seen ∧
      (attempts settings job e (attempt + rounds) (left + 1)).Talk later x ∧
      Answered outcome (attempt + rounds) later := by
  induction rounds generalizing d attempt said with
  | zero => exact ⟨d, [], said, none, rfl, fun _ _ => rfl, ⟨rfl, rfl, rfl⟩, h, answered⟩
  | succ rounds ih =>
      obtain ⟨first, _, _, rfl, tells, h, onward⟩ := round_talk (tame attempt)
        (again attempt (by omega) (by omega)) (by omega) (paced attempt (by omega) (by omega)) h
        answered
      obtain ⟨e, others, later, _, rfl, same, tells', h, onward⟩ := ih
        (fun i hi hlt => again i (by omega) (by omega))
        (fun i hi hlt => paced i (by omega) (by omega)) h onward
      refine ⟨e, first ++ others, later, _, (List.append_assoc ..).symm, same,
        tells.append tells', ?_, ?_⟩
      · rwa [Nat.add_assoc, Nat.add_comm 1] at h
      · rwa [Nat.add_assoc, Nat.add_comm 1] at onward

/-! ## The whole delivery -/

/-- A delivery that was closed after so many attempts. -/
structure Concludes (job : QueuedDelivery) (outcome : Nat → Exchange) (pause : Nat → Binary64)
    (attempts : Nat) (fared : Fared Unit) : Prop where
  ended : fared.ended = .ok ()
  /-- The same request every time, with the pauses between. -/
  wire : fared.said.filterMap Said.wire? =
    wireBefore job job.delivery pause 1 (attempts - 1) ++ [onWire job job.delivery]
  requests : (fared.said.filterMap Said.wire?).countP (·.2.isRequest) = attempts
  closed : ∃ final, job.delivery.Closed final attempts (outcome attempts) ∧
    fared.said.filterMap Said.saved? =
      savedBefore job.delivery outcome 1 (attempts - 1) ++ [final] ∧
    (fared.said.filterMap Said.shown?).getLast? = some final
  growing : (job.delivery :: fared.said.filterMap Said.saved?).Pairwise (·.attempts ≤ ·.attempts)
  onlyLast : ∀ d ∈ (job.delivery :: fared.said.filterMap Said.saved?).dropLast, d.IsOpen

/-- A delivery that stopped with a failure, since the pause after an attempt has no number. -/
structure StopsShort (job : QueuedDelivery) (outcome : Nat → Exchange) (pause : Nat → Binary64)
    (failure : Failure) (stuck : Nat) (fared : Fared Unit) : Prop where
  ended : fared.ended = .error failure
  wire : fared.said.filterMap Said.wire? =
    wireBefore job job.delivery pause 1 (stuck - 1) ++ [onWire job job.delivery]
  saved : fared.said.filterMap Said.saved? = savedBefore job.delivery outcome 1 stuck
  stillOpen : ∀ d ∈ fared.said.filterMap Said.saved?, d.IsOpen

theorem countP_wireBefore (job : QueuedDelivery) (d : Delivery) (pause : Nat → Binary64)
    (first rounds : Nat) :
    (wireBefore job d pause first rounds).countP (·.2.isRequest) = rounds := by
  induction rounds generalizing first with
  | zero => rfl
  | succ rounds ih =>
      show (_ :: _ :: wireBefore job d pause (first + 1) rounds).countP _ = rounds + 1
      rw [List.countP_cons_of_pos rfl, List.countP_cons_of_neg (by simp [WireEntry.isRequest]), ih]

theorem mem_savedBefore {d e : Delivery} {outcome : Nat → Exchange} {first rounds : Nat} :
    e ∈ savedBefore d outcome first rounds ↔
      ∃ i, (first ≤ i ∧ i < first + rounds) ∧ d.afterMiss i (outcome i) = e := by
  simp only [savedBefore, List.mem_map, List.mem_range'_1]

theorem savedBefore_open {d : Delivery} (fresh : d.IsFresh) (outcome : Nat → Exchange)
    (first rounds : Nat) : ∀ e ∈ savedBefore d outcome first rounds, e.IsOpen := by
  intro e he
  obtain ⟨i, _, rfl⟩ := mem_savedBefore.mp he
  exact ⟨fresh.pending, fresh.completedAt⟩

theorem savedBefore_growing (d : Delivery) (outcome : Nat → Exchange) (first rounds : Nat) :
    (savedBefore d outcome first rounds).Pairwise (·.attempts ≤ ·.attempts) := by
  refine List.pairwise_map.mpr ((List.pairwise_lt_range' 1).imp ?_)
  intro i j less
  exact Int.ofNat_le.mpr (Nat.le_of_lt less)

/-- Entries that agree after every attempt are of one delivery. -/
theorem onWire_of_same {e d : Delivery} (job : QueuedDelivery)
    (same : ∀ i y, e.afterMiss i y = d.afterMiss i y) :
    e.id = d.id ∧ onWire job e = onWire job d := by
  have here := same 0 (.answered 0)
  have url : e.url = d.url := (congrArg Delivery.url here :)
  have method : e.method = d.method := (congrArg Delivery.method here :)
  exact ⟨(congrArg Delivery.id here :), by rw [onWire, onWire, url, method]⟩

/-- With the number of attempts that the outcomes ask for, a delivery comes to its end. -/
theorem concludes {pause : Nat → Binary64} {retries last : Nat} {fared : Fared Unit}
    (fresh : job.delivery.IsFresh) (budget : settings.webhookMaxRetries = retries)
    (tame : ∀ i, (outcome i).IsOutcome) (isLast : IsLast outcome retries last)
    (paced : ∀ i, 1 ≤ i → i < last → settings.pauseAfter i = .ok (pause i))
    (talk : (deliver settings job).Talk fared.said fared.ended)
    (answered : Answered outcome 1 fared.said) :
    Concludes job outcome pause last fared := by
  obtain ⟨rounds, rfl⟩ := Nat.exists_eq_add_of_le isLast.first
  obtain ⟨left, rfl⟩ : ∃ left, retries = left + rounds :=
    Nat.exists_eq_add_of_le' (by have := isLast.within; omega)
  have enough : (settings.webhookMaxRetries + 1).toNat = left + rounds + 1 := by omega
  rw [deliver, enough] at talk
  obtain ⟨e, _, _, _, here, same, tells, h, onward⟩ :=
    rounds_talk tame isLast.before paced talk answered
  obtain ⟨_, _, rfl, tells', h, onward⟩ := attempts_talk h onward
  have stops : ((outcome (1 + rounds)).isRetryable && left != 0) = false := by
    rcases isLast.stops with final | spent
    · rw [final, Bool.false_and]
    · obtain rfl : left = 0 := by omega
      exact Bool.and_false _
  obtain ⟨ended, final, closed, tells''⟩ := goOn_last (tame _) stops h onward.ok
  have whole := tells.append (tells'.append tells'')
  obtain ⟨sameId, sameWire⟩ := onWire_of_same job same
  simp only [← here, sameWire, List.append_nil, List.nil_append, Option.some_or] at whole
  rw [← Nat.add_sub_cancel_left (n := 1) (m := rounds)] at whole
  have isOpen : ∀ d ∈ job.delivery :: savedBefore job.delivery outcome 1 rounds, d.IsOpen := by
    refine List.forall_mem_cons.mpr ⟨⟨fresh.pending, fresh.completedAt⟩, ?_⟩
    exact savedBefore_open fresh outcome 1 rounds
  refine ⟨ended, whole.wire, ?_, ⟨final, ?_, whole.saved, whole.seen⟩, ?_, ?_⟩
  · rw [whole.wire, List.countP_append, countP_wireBefore, Nat.add_sub_cancel_left, Nat.add_comm]
    rfl
  · exact { closed with id := closed.id.trans sameId }
  · rw [whole.saved, ← List.cons_append, Nat.add_sub_cancel_left]
    refine List.pairwise_append.mpr ⟨?_, List.pairwise_singleton _ _, ?_⟩
    · refine List.pairwise_cons.mpr ⟨?_, savedBefore_growing _ _ _ _⟩
      intro d hd
      obtain ⟨i, _, rfl⟩ := mem_savedBefore.mp hd
      exact fresh.attempts.symm ▸ Int.natCast_nonneg i
    · intro d hd _ hfinal
      obtain rfl := List.mem_singleton.mp hfinal
      rw [closed.attempts]
      rcases List.mem_cons.mp hd with rfl | hd
      · exact fresh.attempts.symm ▸ Int.natCast_nonneg _
      · obtain ⟨i, within, rfl⟩ := mem_savedBefore.mp hd
        exact Int.ofNat_le.mpr (Nat.le_of_lt within.2)
  · rw [whole.saved, ← List.cons_append, List.dropLast_concat, Nat.add_sub_cancel_left]
    exact isOpen

/-- Where the pause after an attempt has no number, a delivery that needs it stops there. -/
theorem stopsShort {pause : Nat → Binary64} {retries last stuck : Nat} {failure : Failure}
    {fared : Fared Unit} (fresh : job.delivery.IsFresh)
    (budget : settings.webhookMaxRetries = retries) (tame : ∀ i, (outcome i).IsOutcome)
    (isLast : IsLast outcome retries last) (first : 1 ≤ stuck) (within : stuck < last)
    (paced : ∀ i, 1 ≤ i → i < stuck → settings.pauseAfter i = .ok (pause i))
    (unpaced : settings.pauseAfter stuck = .error failure)
    (talk : (deliver settings job).Talk fared.said fared.ended)
    (answered : Answered outcome 1 fared.said) :
    StopsShort job outcome pause failure stuck fared := by
  obtain ⟨rounds, rfl⟩ := Nat.exists_eq_add_of_le first
  obtain ⟨left, rfl⟩ : ∃ left, retries = left + 1 + rounds :=
    ⟨retries - 1 - rounds, by have := isLast.within; omega⟩
  have enough : (settings.webhookMaxRetries + 1).toNat = left + 1 + rounds + 1 := by omega
  have again : (outcome (1 + rounds)).isRetryable = true := isLast.before _ first within
  rw [deliver, enough] at talk
  obtain ⟨e, _, _, _, here, same, tells, h, onward⟩ := rounds_talk tame
    (fun i hi hlt => isLast.before i hi (Nat.lt_trans hlt within)) paced talk answered
  obtain ⟨_, _, rfl, tells', h, onward⟩ := attempts_talk h onward
  obtain ⟨f, failed, ended, tells''⟩ | ⟨_, _, _, failed, _⟩ :=
    goOn_again (tame _) again (Nat.succ_ne_zero left) h onward.ok
  · obtain rfl := Except.error.inj (failed.symm.trans unpaced)
    have whole := tells.append (tells'.append tells'')
    simp only [← here, (onWire_of_same job same).2, same, List.append_nil, List.nil_append,
      Option.some_or] at whole
    have saved : fared.said.filterMap Said.saved? =
        savedBefore job.delivery outcome 1 (1 + rounds) := by
      rw [whole.saved, savedBefore, savedBefore, Nat.add_comm 1 rounds, List.range'_1_concat,
        List.map_append, Nat.add_comm 1 rounds]
      rfl
    refine ⟨ended, ?_, saved, ?_⟩
    · rw [whole.wire, Nat.add_sub_cancel_left]
    · rw [saved]
      exact savedBefore_open fresh outcome 1 _
  · cases failed.symm.trans unpaced

/-- Of any outcomes, one is the last that is asked for. -/
theorem exists_isLast (outcome : Nat → Exchange) (retries : Nat) :
    ∃ last, IsLast outcome retries last := by
  induction retries with
  | zero => exact ⟨1, by omega, by omega, fun i _ _ => by omega, .inr rfl⟩
  | succ retries ih =>
      obtain ⟨last, h⟩ := ih
      by_cases final : (outcome last).isRetryable = false
      · exact ⟨last, h.first, Nat.le_succ_of_le h.within, h.before, .inl final⟩
      · obtain rfl : last = retries + 1 := h.stops.resolve_left final
        refine ⟨retries + 1 + 1, by omega, Nat.le_refl _, ?_, .inr rfl⟩
        intro i hi hlt
        rcases Nat.lt_succ_iff_lt_or_eq.mp hlt with hlt | rfl
        · exact h.before i hi hlt
        · exact Bool.not_eq_false _ ▸ final

/-- The law of a delivery, whatever goes on around it: with the outcomes of its requests, the last
attempt is the first whose outcome is not retryable, or the one after all retries.  If every pause
before it has a number, just so many requests are made, all the same and with the doubled pauses
between, and the entry is closed as the last outcome asks, after open entries with ever more
attempts.  If not, the delivery stops at the first pause that has none, and its entry stays open. -/
theorem deliver_retries (others : Nat → World → World) (turn : Nat) (w : World) {retries : Nat}
    (fresh : job.delivery.IsFresh) (budget : settings.webhookMaxRetries = retries)
    (tame : ∀ i, (outcome i).IsOutcome)
    (answered : Answered outcome 1 ((deliver settings job).amid others turn w).said) :
    ∃ last, IsLast outcome retries last ∧
      (∀ pause, (∀ i, 1 ≤ i → i < last → settings.pauseAfter i = .ok (pause i)) →
        (∀ i, 1 ≤ i → i < last → settings.IsPause i (pause i)) ∧
          Concludes job outcome pause last ((deliver settings job).amid others turn w)) ∧
      ∀ stuck pause failure, 1 ≤ stuck → stuck < last →
        (∀ i, 1 ≤ i → i < stuck → settings.pauseAfter i = .ok (pause i)) →
        settings.pauseAfter stuck = .error failure →
        StopsShort job outcome pause failure stuck ((deliver settings job).amid others turn w) ∧
          ∀ x, settings.webhookRetryBackoff = .real x → stuck = 1025 := by
  obtain ⟨last, isLast⟩ := exists_isLast outcome retries
  have talk := Prog.talk_amid others (deliver settings job) turn w
  refine ⟨last, isLast, ?_, ?_⟩
  · intro pause paced
    exact ⟨fun i hi hlt => Settings.isPause_of_pauseAfter (paced i hi hlt),
      concludes fresh budget tame isLast paced talk answered⟩
  · intro stuck pause failure first within paced unpaced
    refine ⟨stopsShort fresh budget tame isLast first within paced unpaced talk answered, ?_⟩
    intro x backoff
    exact Settings.stuck_of_real backoff (fun i hi hlt => ⟨_, paced i hi hlt⟩) unpaced

/-- A delivery to an address that answers the second request only. -/
def unsteadyJob : QueuedDelivery where
  delivery := {
    id := .issued 1
    url := "https://hooks.example/deals"
    method := "POST"
    actionId := ⟨1⟩
    createdAt := { civil := 0 } }
  headers := [("Content-Type", "application/json")]
  content := "[]"

def unsteadyWorld : World where
  script := [("https://hooks.example/deals", [.answered 503, .answered 204])]

def unsteadyOutcome (attempt : Nat) : Exchange :=
  if attempt = 1 then .answered 503 else .answered 204

/-- The default backoff, doubled. -/
def defaultPause (attempt : Nat) : Binary64 :=
  (Binary64.finite false (Binary64.one / 2)).timesTwoPow (attempt - 1)

theorem unsteady_delivered :
    Answered unsteadyOutcome 1 ((deliver {} unsteadyJob).amid (fun _ w => w) 0 unsteadyWorld).said ∧
      IsLast unsteadyOutcome 2 2 ∧
      Concludes unsteadyJob unsteadyOutcome defaultPause 2
        ((deliver {} unsteadyJob).amid (fun _ w => w) 0 unsteadyWorld) := by
  have answered : Answered unsteadyOutcome 1
      ((deliver {} unsteadyJob).amid (fun _ w => w) 0 unsteadyWorld).said :=
    ⟨by decide, by decide⟩
  have tame : ∀ i, (unsteadyOutcome i).IsOutcome := by
    intro i
    unfold unsteadyOutcome
    split <;> trivial
  have budget : ({} : Settings).webhookMaxRetries = (2 : Nat) := rfl
  obtain ⟨last, isLast, concludes, _⟩ :=
    deliver_retries (fun _ w => w) 0 unsteadyWorld ⟨rfl, rfl, rfl⟩ budget tame answered
  have beyond : ¬ 2 < last := fun h => absurd (isLast.before 2 (by decide) h) (by decide)
  have more : last ≠ 1 := by
    rintro rfl
    exact isLast.stops.elim (by decide) (by decide)
  obtain rfl : last = 2 := by have := isLast.first; omega
  have paced : ∀ i, 1 ≤ i → i < 2 → ({} : Settings).pauseAfter i = .ok (defaultPause i) := by
    intro i hi hlt
    obtain rfl : i = 1 := by omega
    rfl
  exact ⟨answered, isLast, (concludes _ paced).2⟩

end Deliver

end RecordFlow
