/-
# Balance — owners assigned by load

A load-balanced rule gives a record to the first user of its pool who owns the
fewest.  Where the record was free, that user owns one record more and nobody
else in the pool owns more or fewer; so however many records are given out one
after the other, the loads of the pool never come further apart than they were,
or than by one: `assignments_stay_balanced`.

What is counted is what the adapter counts, the records whose owner field holds
the user.  The pool may name a user more than once.
-/
import Mathlib.Data.List.Nodup
import RecordFlow.Proofs.Cursors
import RecordFlow.Proofs.Sequential

namespace RecordFlow

/-! ## The first of the least -/

/-- The first item among those that come out least. -/
def IsFirstLeast {α : Type} (count : α → Nat) (xs : List α) (x : α) : Prop :=
  ∃ before after, xs = before ++ x :: after ∧ (∀ y ∈ before, count x < count y) ∧
    ∀ y ∈ xs, count x ≤ count y

theorem IsFirstLeast.mem {α : Type} {count : α → Nat} {xs : List α} {x : α}
    (h : IsFirstLeast count xs x) : x ∈ xs := by
  obtain ⟨before, after, rfl, -, -⟩ := h
  exact List.mem_append_right _ List.mem_cons_self

theorem Assignment.leastLoaded_first (load : String → Nat) {pool : List String}
    (filled : pool ≠ []) :
    ∃ user, leastLoaded (pool.map fun u => (u, load u)) = some (user, load user) ∧
      IsFirstLeast load pool user := by
  induction pool with
  | nil => exact absurd rfl filled
  | cons first pool ih =>
      cases pool with
      | nil => exact ⟨first, rfl, [], [], rfl, nofun, by simp⟩
      | cons second pool =>
          obtain ⟨best, chosen, before, after, split, earlier, least⟩ := ih (List.cons_ne_nil _ _)
          rw [List.map_cons, leastLoaded, chosen]
          by_cases fewer : load first ≤ load best
          · refine ⟨first, congrArg some (if_pos fewer), [], _, rfl, nofun, ?_⟩
            refine List.forall_mem_cons.mpr ⟨Nat.le_refl _, fun y hy => ?_⟩
            exact Nat.le_trans fewer (least y hy)
          · have more : load best < load first := Nat.lt_of_not_le fewer
            refine ⟨best, congrArg some (if_neg fewer), first :: before, after, ?_, ?_, ?_⟩
            · rw [split, List.cons_append]
            · exact List.forall_mem_cons.mpr ⟨more, earlier⟩
            · exact List.forall_mem_cons.mpr ⟨Nat.le_of_lt more, least⟩

/-! ## Loads -/

/-- Whether a value is a text. -/
def Value.isText (v : Value) (s : String) : Bool :=
  match v with
  | .text t => t = s
  | _ => false

theorem Value.equal_text (v : Value) (s : String) : v.equal (.text s) = .ok (v.isText s) := by
  cases v <;> simp [equal, isText, isNumber]

namespace Adapter

/-- How many records a user owns. -/
def load (a : Adapter) (user : String) : Nat :=
  a.records.countP fun r => (Fields.get r.2 a.ownerField).isText user

theorem countEqual_text (field user : String) (records : List (String × Fields)) :
    countEqual field (.text user) records
      = .ok (records.countP fun r => (Fields.get r.2 field).isText user) := by
  induction records with
  | nil => rfl
  | cons r records ih =>
      rw [countEqual, Value.equal_text, ih, List.countP_cons, Nat.add_comm]
      rfl

theorem countOwned_text (a : Adapter) (user : String) :
    a.countOwned (.text user) = .ok (a.load user) :=
  countEqual_text _ _ _

/-- A record that is there, and that nobody of a pool owns. -/
def IsFree (a : Adapter) (pool : List String) (id : String) : Prop :=
  ∃ fs, a.record? id = some fs ∧ ∀ user ∈ pool, (Fields.get fs a.ownerField).isText user = false

/-- The adapter after a record was given to a user. -/
def give (a : Adapter) (id user : String) : Adapter :=
  { a with
    records := Keyed.modify Prod.fst id
      (fun r => (r.1, Fields.set r.2 a.ownerField (.text user))) a.records }

theorem isText_given (fs : Fields) (field user other : String) :
    (Fields.get (fs.set field (.text user)) field).isText other = decide (user = other) := by
  rw [Fields.get, Fields.find?_set, if_pos rfl]
  rfl

section

variable {a : Adapter} {pool : List String} {id : String}

theorem IsFree.updateField (free : a.IsFree pool id) (user : String) :
    a.updateField id a.ownerField (.text user) = .ok (a.give id user) := by
  obtain ⟨fs, found, -⟩ := free
  rw [Adapter.updateField, found]
  rfl

theorem keys_give (a : Adapter) (id user : String) :
    (a.give id user).records.map Prod.fst = a.records.map Prod.fst :=
  map_modify_kept fun _ _ _ => rfl

/-- The other records are left as they are. -/
theorem IsFree.give {other : String} (free : a.IsFree pool id) (apart : id ≠ other)
    (user : String) : (a.give other user).IsFree pool id := by
  obtain ⟨fs, found, unowned⟩ := free
  refine ⟨fs, ?_, unowned⟩
  rw [← found]
  exact (Keyed.lookup_modify other id (fun fs => Fields.set fs a.ownerField (.text user)) _).trans
    (if_neg apart)

/-- A free record that is given to a user is one more for this user and none for another. -/
theorem load_give (once : (a.records.map Prod.fst).Nodup) (free : a.IsFree pool id)
    (user : String) {other : String} (mem : other ∈ pool) :
    (a.give id user).load other = a.load other + if user = other then 1 else 0 := by
  obtain ⟨fs, found, unowned⟩ := free
  obtain ⟨front, back, split, -⟩ := List.lookup_eq_some_iff.mp found
  have given : (a.give id user).records
      = front ++ (id, Fields.set fs a.ownerField (.text user)) :: back := by
    show Keyed.modify _ _ _ a.records = _
    rw [split] at once ⊢
    exact Keyed.modify_middle once
  show List.countP _ (a.give id user).records = List.countP _ a.records + _
  rw [given, split]
  simp only [List.countP_append, List.countP_cons, give, isText_given, unowned other mem,
    decide_eq_true_eq, Bool.false_eq_true, if_false]
  omega

end

/-- How far the loads of a pool are apart. -/
def spread (a : Adapter) (pool : List String) : Nat :=
  (pool.map a.load).max?.getD 0 - (pool.map a.load).min?.getD 0

theorem spread_le_iff {a : Adapter} {pool : List String} (filled : pool ≠ []) {d : Nat} :
    a.spread pool ≤ d ↔ ∀ u ∈ pool, ∀ v ∈ pool, a.load u ≤ a.load v + d := by
  have some : pool.map a.load ≠ [] := by simpa using filled
  obtain ⟨most, hmost⟩ := Option.ne_none_iff_exists'.mp (mt List.max?_eq_none_iff.mp some)
  obtain ⟨least, hleast⟩ := Option.ne_none_iff_exists'.mp (mt List.min?_eq_none_iff.mp some)
  rw [spread, hmost, hleast]
  obtain ⟨atMost, above⟩ := List.max?_eq_some_iff.mp hmost
  obtain ⟨atLeast, below⟩ := List.min?_eq_some_iff.mp hleast
  obtain ⟨u, hu, rfl⟩ := List.mem_map.mp atMost
  obtain ⟨v, hv, rfl⟩ := List.mem_map.mp atLeast
  constructor
  · intro near x hx y hy
    have high := above _ (List.mem_map_of_mem hx)
    have low := below _ (List.mem_map_of_mem hy)
    simp only [Option.getD_some] at near
    omega
  · intro near
    have here := near u hu v hv
    simp only [Option.getD_some]
    omega

/-- Giving a free record to one of the least loaded brings the loads no further apart than they
were, or than by one. -/
theorem spread_give {a : Adapter} {pool : List String} {id user : String}
    (once : (a.records.map Prod.fst).Nodup) (free : a.IsFree pool id)
    (least : IsFirstLeast a.load pool user) :
    (a.give id user).spread pool ≤ max 1 (a.spread pool) := by
  have filled : pool ≠ [] := List.ne_nil_of_mem least.mem
  have near := (spread_le_iff (a := a) filled).mp (Nat.le_refl _)
  obtain ⟨-, -, -, -, fewest⟩ := least
  refine (spread_le_iff filled).mpr fun u hu v hv => ?_
  rw [load_give once free user hu, load_give once free user hv]
  have apart := near u hu v hv
  have low := fewest v hv
  split
  · rename_i same
    subst same
    omega
  · omega

end Adapter

/-! ## One assignment -/

namespace Assignment

/-- The sites that an assignment by load calls. -/
def sites (entityType : String) : List String := [
  "runner.execute",
  "store.get_assignment_rule",
  "services.resolve_team_members",
  "adapter." ++ entityType ++ ".count_owned_records",
  "adapter." ++ entityType ++ ".update_field"]

/-- A world in which a rule gives the records of a kind to a pool by load: the rule is in the
store and active, and the field that is written is the one that is counted. -/
structure Balances (settings : Settings) (rule : AssignmentRule) (entityType : String)
    (pool : List String) (a : Adapter) (w : World) : Prop where
  method : rule.method = .known .loadBalanced
  active : rule.isActive = true
  held : ∃ slot, w.store.getRule rule.id = .ok (some ⟨slot, rule⟩)
  draws : w.poolOf rule = pool
  adapter : w.registry.adapter? entityType = some a
  field : a.ownerField = settings.ownerField
  once : (a.records.map Prod.fst).Nodup
  spared : ∀ site ∈ sites entityType, w.Spares site

/-- An action that assigns an owner through a rule, and names no user. -/
structure Refers (action : Action) (rule : AssignmentRule) : Prop where
  kind : action.kind = .known .assignOwner
  config : ∃ raw reference, action.config = .record raw ∧
    ActionConfig.optionalText raw "userId" = .ok none ∧
    ActionConfig.optionalText raw "assignmentRuleId" = .ok (some reference) ∧
    Uid.parse reference = .ok rule.id

/-- The outcome of an action that has assigned a record to a user. -/
def assigned (action : Action) (user : String) : ActionOutcome where
  actionId := action.id
  kind := .known .assignOwner
  status := .success
  result := .record [("ownerId", .text user)]

/-- The world after a record of a kind was given to a user. -/
def given (w : World) (a : Adapter) (id user : String) : World := w.withAdapter (a.give id user)

section

variable {settings : Settings} {rule : AssignmentRule} {entityType : String} {pool : List String}
  {a : Adapter} {w : World}

theorem given?_of_ne {s : String} (some : s ≠ "") : given? (.some s) = .some s := by
  simp [given?, some]

theorem ruleReference_ok {reference : String} {id : Uid} (h : Uid.parse reference = .ok id) :
    ruleReference reference = .ok id ∧ given? (some reference) = some reference := by
  refine ⟨by rw [ruleReference, h], given?_of_ne ?_⟩
  rintro rfl
  cases h

namespace Balances

theorem registry (h : Balances settings rule entityType pool a w) :
    w.registry.adapter entityType = .ok a := by
  rw [Registry.adapter, h.adapter]

theorem entityType_eq (h : Balances settings rule entityType pool a w) :
    a.entityType = entityType :=
  (find?_mem h.adapter).2

theorem candidatePool_run (h : Balances settings rule entityType pool a w) :
    (candidatePool rule).run w = (.ok pool, w) := by
  rcases candidatePool_cases rule w with known | ⟨team, -, -, members, asked⟩
  · rw [known, h.draws]
    rfl
  · rw [asked, Prog.run_ask, World.answer_of_spared rfl (h.spared _ (by simp [sites])) rfl rfl]
    simp only [World.perform, World.reading, ← members, h.draws]

theorem there (h : Balances settings rule entityType pool a w) :
    (w.registry.adapter? entityType).isSome = true := by
  rw [h.adapter]
  rfl

theorem countOwned_answer (h : Balances settings rule entityType pool a w) (user : String) :
    w.answer (.countOwned entityType (.text user)) = (.ok (a.load user), w) := by
  have reachable : w.unreachable? (.countOwned entityType (.text user)) = none := if_pos h.there
  rw [World.answer_of_spared rfl (h.spared _ (by simp [sites])) rfl reachable]
  simp only [World.perform, World.adapting, h.registry]
  exact congrArg (·, w) (a.countOwned_text user)

theorem loads_run (h : Balances settings rule entityType pool a w) (users : List String) :
    (loads entityType users).run w = (.ok (users.map fun u => (u, a.load u)), w) := by
  induction users with
  | nil => rfl
  | cons user users ih =>
      rw [loads, Prog.run_ask_bind, h.countOwned_answer]
      exact Prog.run_bind_ok ih

/-- The first of the least loaded is chosen, and nothing is changed. -/
theorem resolve_run (h : Balances settings rule entityType pool a w) (filled : pool ≠ [])
    {context : Context} (kind : context.entityType = entityType) (slot : Option Nat) :
    ∃ user, IsFirstLeast a.load pool user ∧
      (resolve ⟨slot, rule⟩ context).run w = (.ok (some user), w) := by
  obtain ⟨user, chosen, least⟩ := leastLoaded_first a.load filled
  refine ⟨user, least, ?_⟩
  have some : pool.isEmpty = false := by simpa using filled
  simp only [resolve, h.method, kind]
  rw [loadBalanced, Prog.run_bind_ok h.candidatePool_run]
  simp only [some, Bool.false_eq_true, if_false]
  refine (Prog.run_bind_ok (h.loads_run pool)).trans ?_
  rw [chosen]
  rfl

theorem ownerFor_run (h : Balances settings rule entityType pool a w) (filled : pool ≠ [])
    {context : Context} (kind : context.entityType = entityType) {config : OwnerConfig}
    {reference : String} (nobody : given? config.userId = none)
    (names : config.ruleId = some reference) (refers : Uid.parse reference = .ok rule.id) :
    ∃ user, IsFirstLeast a.load pool user ∧
      (ownerFor config context).run w = (.ok (some user), w) := by
  obtain ⟨slot, held⟩ := h.held
  obtain ⟨user, least, resolved⟩ := h.resolve_run filled kind slot
  refine ⟨user, least, ?_⟩
  obtain ⟨read, given⟩ := ruleReference_ok refers
  have looked : w.answer (.getRule rule.id) = (.ok (some ⟨slot, rule⟩), w) := by
    rw [World.answer_of_spared rfl (h.spared _ (by simp [sites])) rfl rfl]
    simp only [World.perform, World.reading, held]
  simp only [ownerFor, nobody, names, given, read]
  refine (Prog.run_bind_ok (Prog.run_ofExcept _ w)).trans ?_
  rw [Prog.run_ask_bind, looked]
  simp only [h.active, if_true]
  exact resolved

/-- A record is written to, and nothing else is changed. -/
theorem updateField_answer (h : Balances settings rule entityType pool a w) {id : String}
    (free : a.IsFree pool id) (user : String) :
    w.answer (.updateField entityType id settings.ownerField (.text user))
      = (.ok (), given w a id user) := by
  have reachable : w.unreachable? (.updateField entityType id settings.ownerField (.text user))
      = none := if_pos h.there
  rw [World.answer_of_spared rfl (h.spared _ (by simp [sites])) rfl reachable]
  have written : (w.registry.adapter entityType >>= fun a =>
      a.updateField id settings.ownerField (.text user)) = .ok (a.give id user) := by
    rw [h.registry, ← h.field]
    exact free.updateField user
  simp only [World.perform, World.patching, written]
  rfl

/-- A user who was chosen is written to the record of the run. -/
theorem assignOwner_run (h : Balances settings rule entityType pool a w) {site : Runner.Site}
    (tuned : site.settings = settings) (kind : site.context.entityType = entityType)
    (free : a.IsFree pool site.context.entityId) {config : OwnerConfig} {user : String}
    (named : user ≠ "") (chosen : (ownerFor config site.context).run w = (.ok (some user), w)) :
    (Runner.assignOwner site config).run w
      = (.ok (.record [("ownerId", .text user)]), given w a site.context.entityId user) := by
  have written := h.updateField_answer free user
  rw [Runner.assignOwner, Prog.run_bind_ok chosen]
  simp only [given?_of_ne named]
  rw [Prog.run_ask_bind, kind, tuned, written]
  rfl

/-- The world goes on to give records by load. -/
theorem give (h : Balances settings rule entityType pool a w) (id user : String) :
    Balances settings rule entityType pool (a.give id user) (given w a id user) where
  method := h.method
  active := h.active
  held := h.held
  draws := h.draws
  adapter := (w.registry.adapter?_register _ entityType).trans (if_pos h.entityType_eq)
  field := h.field
  once := (a.keys_give id user).symm ▸ h.once
  spared := h.spared

/-- An action on a free record succeeds and gives it to the first of the least loaded. -/
theorem execute_run (h : Balances settings rule entityType pool a w) (filled : pool ≠ [])
    (named : ∀ user ∈ pool, user ≠ "") {site : Runner.Site} {action : Action}
    (tuned : site.settings = settings) (kind : site.context.entityType = entityType)
    (refers : Refers action rule) (free : a.IsFree pool site.context.entityId) :
    ∃ user, IsFirstLeast a.load pool user ∧
      (Runner.execute site action).run w
        = (.ok (assigned action user), given w a site.context.entityId user) := by
  obtain ⟨raw, reference, config, nobody, names, reads⟩ := refers.config
  let asked : OwnerConfig := { userId := none, ruleId := some reference }
  have read : ActionConfig.read .assignOwner action.config = .ok (.owner asked) := by
    simp only [config, ActionConfig.read, ActionConfig.readFields, ActionConfig.readOwner, nobody,
      names]
    rfl
  have nobody : given? asked.userId = none := rfl
  obtain ⟨user, least, chosen⟩ := h.ownerFor_run filled kind nobody rfl reads
  refine ⟨user, least, ?_⟩
  have assigns := h.assignOwner_run tuned kind free (named user least.mem) chosen
  have entered : w.answer .enterRunner = (.ok (), w) :=
    World.answer_of_spared rfl (h.spared _ (by simp [sites])) rfl rfl
  exact Runner.execute_succeeds site refers.kind entered read rfl assigns

end Balances

end

end Assignment

/-! ## Assignments one after the other -/

namespace World

/-- How many records of a kind a user owns. -/
def load (w : World) (entityType user : String) : Nat :=
  ((w.registry.adapter? entityType).map (·.load user)).getD 0

/-- How far the loads of a pool are apart. -/
def spread (w : World) (entityType : String) (pool : List String) : Nat :=
  ((w.registry.adapter? entityType).map (·.spread pool)).getD 0

/-- The record of a context is there, and nobody of a pool owns it. -/
def IsFree (w : World) (pool : List String) (context : Context) : Prop :=
  ∃ a, w.registry.adapter? context.entityType = some a ∧ a.IsFree pool context.entityId

end World

/-- The world after actions one after the other, each at its site. -/
def Runner.after (steps : List (Runner.Site × Action)) (w : World) : World :=
  steps.foldl (fun w step => ((Runner.execute step.1 step.2).run w).2) w

namespace Assignment

variable {settings : Settings} {rule : AssignmentRule} {entityType : String} {pool : List String}
  {a : Adapter} {w : World} {steps : List (Runner.Site × Action)}

/-- An action that assigns an owner to a record of a kind through a rule. -/
structure IsStep (settings : Settings) (rule : AssignmentRule) (entityType : String)
    (step : Runner.Site × Action) : Prop where
  tuned : step.1.settings = settings
  kind : step.1.context.entityType = entityType
  refers : Refers step.2 rule

/-- Each record is free when its turn comes. -/
def EachFree (pool : List String) (steps : List (Runner.Site × Action)) (w : World) : Prop :=
  ∀ before step later, steps = before ++ step :: later →
    (Runner.after before w).IsFree pool step.1.context

theorem Balances.free (h : Balances settings rule entityType pool a w) {context : Context}
    (kind : context.entityType = entityType) (free : w.IsFree pool context) :
    a.IsFree pool context.entityId := by
  obtain ⟨a', there, free⟩ := free
  rw [kind, h.adapter] at there
  exact Option.some.inj there ▸ free

/-- What is given out leaves the loads no further apart than they were, or than by one. -/
theorem Balances.after (h : Balances settings rule entityType pool a w) (filled : pool ≠ [])
    (named : ∀ user ∈ pool, user ≠ "")
    (assigns : ∀ step ∈ steps, IsStep settings rule entityType step)
    (free : EachFree pool steps w) :
    ∃ a', Balances settings rule entityType pool a' (Runner.after steps w) ∧
      a'.spread pool ≤ max 1 (a.spread pool) := by
  induction steps generalizing a w with
  | nil => exact ⟨a, h, Nat.le_max_right _ _⟩
  | cons step steps ih =>
      have here := assigns step List.mem_cons_self
      have isFree := h.free here.kind (free [] step steps rfl)
      obtain ⟨user, least, ran⟩ :=
        h.execute_run filled named here.tuned here.kind here.refers isFree
      have world : ((Runner.execute step.1 step.2).run w).2
          = given w a step.1.context.entityId user := congrArg Prod.snd ran
      obtain ⟨a', goesOn, near⟩ := ih (h.give step.1.context.entityId user)
        (fun s hs => assigns s (List.mem_cons_of_mem _ hs)) fun before s later split => by
          have turn := free (step :: before) s later (congrArg (step :: ·) split)
          rwa [Runner.after, List.foldl_cons, world] at turn
      refine ⟨a', ?_, ?_⟩
      · rwa [Runner.after, List.foldl_cons, world]
      · have near' := Adapter.spread_give h.once isFree least
        omega

/-- Records that are different and free at the beginning are free when their turns come. -/
theorem Balances.eachFree (h : Balances settings rule entityType pool a w) (filled : pool ≠ [])
    (named : ∀ user ∈ pool, user ≠ "")
    (assigns : ∀ step ∈ steps, IsStep settings rule entityType step)
    (apart : (steps.map fun step => step.1.context.entityId).Nodup)
    (free : ∀ step ∈ steps, a.IsFree pool step.1.context.entityId) :
    EachFree pool steps w := by
  induction steps generalizing a w with
  | nil => exact fun before _ _ split => absurd split (by simp)
  | cons first steps ih =>
      rw [List.map_cons, List.nodup_cons] at apart
      have here := assigns first List.mem_cons_self
      obtain ⟨user, -, ran⟩ := h.execute_run filled named here.tuned here.kind here.refers
        (free first List.mem_cons_self)
      have untouched : ∀ s ∈ steps,
          (a.give first.1.context.entityId user).IsFree pool s.1.context.entityId := by
        intro s hs
        refine (free s (List.mem_cons_of_mem _ hs)).give (fun same => apart.1 ?_) user
        exact same ▸ List.mem_map_of_mem (f := fun step => step.1.context.entityId) hs
      have later := ih (h.give first.1.context.entityId user)
        (fun s hs => assigns s (List.mem_cons_of_mem _ hs)) apart.2 untouched
      intro before step rest split
      cases before with
      | nil =>
          obtain ⟨rfl, -⟩ := List.cons.inj split
          exact ⟨a, here.kind ▸ h.adapter, free first List.mem_cons_self⟩
      | cons other before =>
          obtain ⟨rfl, tails⟩ := List.cons.inj split
          have turn := later before step rest tails
          rwa [Runner.after, List.foldl_cons, ran]

/-- Free records given out through an active rule by load: every action succeeds and picks the
first of its pool who owns the fewest, who then owns one more, while nobody else in the pool owns
more or fewer; and the loads are never further apart than at the beginning, or than by one. -/
theorem assignments_stay_balanced (h : Balances settings rule entityType pool a w)
    (filled : pool ≠ []) (named : ∀ user ∈ pool, user ≠ "")
    (assigns : ∀ step ∈ steps, IsStep settings rule entityType step)
    (free : EachFree pool steps w) {before later : List (Runner.Site × Action)}
    {step : Runner.Site × Action} (split : steps = before ++ step :: later) :
    ∃ user w', (Runner.execute step.1 step.2).run (Runner.after before w)
        = (.ok (assigned step.2 user), w') ∧
      IsFirstLeast ((Runner.after before w).load entityType) pool user ∧
      w'.load entityType user = (Runner.after before w).load entityType user + 1 ∧
      (∀ other ∈ pool, other ≠ user →
        w'.load entityType other = (Runner.after before w).load entityType other) ∧
      w'.spread entityType pool ≤ max 1 (w.spread entityType pool) := by
  subst split
  obtain ⟨a', goesOn, near⟩ := h.after filled named
    (fun s hs => assigns s (List.mem_append_left _ hs)) fun front s back split =>
      free front s (back ++ step :: later) (by rw [split, List.append_assoc, List.cons_append])
  have here := assigns step (List.mem_append_right _ List.mem_cons_self)
  have isFree := goesOn.free here.kind (free before step later rfl)
  obtain ⟨user, least, ran⟩ :=
    goesOn.execute_run filled named here.tuned here.kind here.refers isFree
  have onward := goesOn.give step.1.context.entityId user
  have loads (w : World) {a : Adapter} (h : Balances settings rule entityType pool a w) :
      w.load entityType = a.load ∧ w.spread entityType pool = a.spread pool := by
    refine ⟨funext fun user => ?_, ?_⟩
    · rw [World.load, h.adapter]
      rfl
    · rw [World.spread, h.adapter]
      rfl
  refine ⟨user, _, ran, ?_⟩
  rw [(loads _ goesOn).1, (loads _ onward).1, (loads _ onward).2, (loads _ h).2]
  refine ⟨least, ?_, ?_, ?_⟩
  · rw [Adapter.load_give goesOn.once isFree user least.mem, if_pos rfl]
  · intro other mem ne
    rw [Adapter.load_give goesOn.once isFree user mem, if_neg ne.symm, Nat.add_zero]
  · have near' := Adapter.spread_give goesOn.once isFree least
    omega

/-- A rule that gives deals to the one of two users who owns the fewest. -/
def lighter : AssignmentRule where
  id := ⟨5⟩
  entityType := "deal"
  method := .known .loadBalanced
  userIds := ["ann", "bob"]

/-- Three deals, of which the first user owns one. -/
def threeDeals : Adapter where
  entityType := "deal"
  records := [("d1", [("ownerId", .text "ann")]), ("d2", []), ("d3", [])]

/-- The world with the rule and the deals. -/
def lighterWorld : World where
  store := .memory { rules := [⟨some 0, lighter⟩] }
  registry := [threeDeals]

/-- An owner assigned to a deal through the rule. -/
def lighterStep (id : String) : Runner.Site × Action :=
  (⟨{}, { entityType := "deal", entityId := id }, none, none⟩,
    { id := ⟨6⟩
      kind := .known .assignOwner
      config := .record
        [("assignmentRuleId", .text "00000000-0000-0000-0000-000000000005")] })

theorem lighterWorld_balances :
    Balances {} lighter "deal" ["ann", "bob"] threeDeals lighterWorld where
  method := rfl
  active := rfl
  held := ⟨some 0, rfl⟩
  draws := rfl
  adapter := rfl
  field := rfl
  once := by decide
  spared := by simp [World.Spares, lighterWorld]

theorem lighterStep_isStep (id : String) : IsStep {} lighter "deal" (lighterStep id) where
  tuned := rfl
  kind := rfl
  refers := ⟨rfl, _, _, rfl, rfl, rfl, by decide⟩

theorem lighterSteps_eachFree :
    EachFree ["ann", "bob"] [lighterStep "d2", lighterStep "d3"] lighterWorld := by
  refine lighterWorld_balances.eachFree (by decide) (by decide) ?_ (by decide) ?_
  · simp [lighterStep_isStep]
  · have unowned : ∀ user ∈ ["ann", "bob"],
        (Fields.get [] threeDeals.ownerField).isText user = false := by decide
    have second : threeDeals.record? "d2" = some [] := by
      simp [Adapter.record?, threeDeals, List.lookup_cons]
    have third : threeDeals.record? "d3" = some [] := by
      simp [Adapter.record?, threeDeals, List.lookup_cons]
    refine List.forall_mem_cons.mpr ⟨⟨[], second, unowned⟩, ?_⟩
    exact List.forall_mem_cons.mpr ⟨⟨[], third, unowned⟩, List.forall_mem_nil _⟩

/-- The first of the two deals that are free evens the loads out, and the second goes to the user
who is named first. -/
theorem lighterSteps_balanced :
    Balances {} lighter "deal" ["ann", "bob"] threeDeals lighterWorld ∧
      ["ann", "bob"] ≠ [] ∧ (∀ user ∈ ["ann", "bob"], user ≠ "") ∧
      (∀ step ∈ [lighterStep "d2", lighterStep "d3"], IsStep {} lighter "deal" step) ∧
      EachFree ["ann", "bob"] [lighterStep "d2", lighterStep "d3"] lighterWorld ∧
      ∃ user w', (Runner.execute (lighterStep "d3").1 (lighterStep "d3").2).run
            (Runner.after [lighterStep "d2"] lighterWorld)
          = (.ok (assigned (lighterStep "d3").2 user), w') ∧
        w'.spread "deal" ["ann", "bob"] ≤ max 1 (lighterWorld.spread "deal" ["ann", "bob"]) := by
  have filled : ["ann", "bob"] ≠ [] := by decide
  have named : ∀ user ∈ ["ann", "bob"], user ≠ "" := by decide
  have assigns : ∀ step ∈ [lighterStep "d2", lighterStep "d3"], IsStep {} lighter "deal" step := by
    simp [lighterStep_isStep]
  have split : [lighterStep "d2", lighterStep "d3"]
      = [lighterStep "d2"] ++ lighterStep "d3" :: [] := rfl
  obtain ⟨user, w', ran, -, -, -, near⟩ := assignments_stay_balanced lighterWorld_balances filled
    named assigns lighterSteps_eachFree split
  exact ⟨lighterWorld_balances, filled, named, assigns, lighterSteps_eachFree, user, w', ran, near⟩

end Assignment

end RecordFlow
