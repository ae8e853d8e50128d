/-
# Accounts — the ledger accounts for every record

Dispatches, runs that are asked for by hand and the background are under way
together, in any interleaving, over services and a memory store that began
without records.  The tasks, activities, e-mails and deliveries that there are
are those that the entries of the ledger tell of, and those that a run has made
and is about to tell of.  Where no run is in progress nothing is yet to be told,
and records and outcomes correspond one to one.

The invariant is `Accounted`.  It rests on nothing but the store: whatever else
fails, it fails before a record is made or after it has been told of.
-/
import Mathlib.Algebra.Order.Group.Multiset
import Mathlib.Tactic.Abel
import RecordFlow.Proofs.Audit
import RecordFlow.Proofs.Effects
import RecordFlow.Proofs.Sequential

namespace RecordFlow

/-! ## The records of a world -/

namespace Services

/-- The tasks, the activities and the e-mails. -/
def books (s : Services) : List TaskRecord × List ActivityRecord × List EmailRecord :=
  (s.tasks, s.activities, s.emails)

/-- The records of the services as what actions leave. -/
def effects (s : Services) : List Effect :=
  s.tasks.map TaskRecord.effect ++ s.activities.map ActivityRecord.effect
    ++ s.emails.map EmailRecord.effect

/-- Tasks, activities and e-mails are numbered in the order of their creation. -/
structure IsNumbered (s : Services) : Prop where
  tasks : s.tasks.map TaskRecord.id = (List.range s.tasks.length).map (issue "task")
  activities :
    s.activities.map ActivityRecord.id = (List.range s.activities.length).map (issue "activity")
  emails : s.emails.map EmailRecord.id = (List.range s.emails.length).map (issue "email")

variable {s s' : Services}

theorem IsNumbered.of_books (h : s.IsNumbered) (same : s'.books = s.books) : s'.IsNumbered := by
  simp only [books, Prod.mk.injEq] at same
  obtain ⟨tasks, activities, emails⟩ := same
  exact ⟨by rw [tasks, h.tasks], by rw [activities, h.activities], by rw [emails, h.emails]⟩

theorem effects_of_books (same : s'.books = s.books) : s'.effects = s.effects := by
  simp only [books, Prod.mk.injEq] at same
  obtain ⟨tasks, activities, emails⟩ := same
  simp only [effects, tasks, activities, emails]

theorem issue_injective (sort : String) : Function.Injective (issue sort) := by
  intro m n same
  simp only [issue, String.append_right_inj, Nat.toString_eq_repr] at same
  have digits : Nat.toDigits 10 (m + 1) = Nat.toDigits 10 (n + 1) := by
    rw [← Nat.toList_repr, same, Nat.toList_repr]
  have numbers := congrArg (Nat.ofDigitChars 10 · 0) digits
  simp only [Nat.ofDigitChars_ten_toDigits] at numbers
  exact Nat.succ.inj numbers

/-- Numbered records go on being numbered under the next identifier. -/
theorem numbered_append {α : Type} {sort : String} {id : α → String} {xs : List α} {x : α}
    (h : xs.map id = (List.range xs.length).map (issue sort)) (next : id x = issue sort xs.length) :
    (xs ++ [x]).map id = (List.range (xs ++ [x]).length).map (issue sort) := by
  simp only [List.map_append, h, List.length_append, List.length_singleton, List.range_succ,
    List.map_singleton, next]

theorem IsNumbered.createTask (h : s.IsNumbered) (t : TaskRecord) :
    (s.createTask t).2.IsNumbered :=
  ⟨numbered_append h.tasks rfl, h.activities, h.emails⟩

theorem IsNumbered.createActivity (h : s.IsNumbered) (a : ActivityRecord) :
    (s.createActivity a).2.IsNumbered :=
  ⟨h.tasks, numbered_append h.activities rfl, h.emails⟩

theorem IsNumbered.logEmail (h : s.IsNumbered) (m : EmailRecord) : (s.logEmail m).2.IsNumbered :=
  ⟨h.tasks, h.activities, numbered_append h.emails rfl⟩

end Services

/-- A line by its identifier and what it is of. -/
def DeliveryLine.docket (l : DeliveryLine) : RecordId × Effect := (l.id, l.effect)

namespace World

/-- The records that actions have left in a world. -/
def effects (w : World) : List Effect := w.services.effects ++ w.mail.map DeliveryLine.effect

/-- The log of deliveries, by identifiers and what they are of. -/
def dockets (w : World) : List (RecordId × Effect) := w.mail.map DeliveryLine.docket

theorem effects_eq_dockets (w : World) :
    w.effects = w.services.effects ++ w.dockets.map Prod.snd := by
  rw [dockets, List.map_map]
  rfl

/-- What concerns neither the services nor the log leaves the books as they are. -/
theorem books_answer (w : World) {r : Request} (plain : r.cause? = none) :
    (w.answer r).2.services.books = w.services.books := by
  cases inner : r.isOuter with
  | false =>
      refine w.answer_outer (fun v => v.services.books) inner ?_ fun _ => rfl
      intro v v' same
      exact congrArg (fun outer => outer.1.books) same
  | true =>
      cases r with
      | upsertTag name =>
          rcases w.answer_cases (.upsertTag name) with ⟨_, h⟩ | ⟨f, faults, h⟩ | ⟨faults, h⟩
          · rw [h]
          · rw [h]
          · rw [h]
            simp only [perform, serving, Services.upsertTag]
            split <;> rfl
      | endExchange | log => rfl
      | createTask | createActivity | logEmail => cases plain
      | _ => cases inner

end World

/-! ## What is told and what is yet to be told -/

/-- A delivery has a line in the log that is of the same. -/
structure Delivery.IsLogged (d : Delivery) (w : World) : Prop where
  docket : d.line.docket ∈ w.dockets
  legible : d.line.IsLegible

theorem Delivery.IsLogged.mem {d : Delivery} {w : World} (h : d.IsLogged w) :
    d.id ∈ w.mail.map DeliveryLine.id := by
  obtain ⟨l, hl, docket⟩ := List.mem_map.mp h.docket
  exact List.mem_map.mpr ⟨l, hl, congrArg Prod.fst docket⟩

/-- The records of a world are those that its entries tell of and those that are yet to be told of,
and each entry is in one hand at most. -/
structure Accounted (w : World) (ps : List Telling) : Prop where
  memory : w.store.isMemory = true
  holders : Holders Telling.inHand? w.entries w.issued ps
  logs : w.Logs
  numbered : w.services.IsNumbered
  waiting : ∀ d ∈ w.posted, d.IsLogged w
  borne : ∀ p ∈ ps, ∀ d, p.delivery? = some d → d.IsLogged w
  balance : w.effects.Perm
    (w.entries.flatMap Execution.effects ++ ps.filterMap Telling.untold?)
  frank : ∀ e ∈ w.entries, e.IsFrank

/-- Nothing is made and nothing is told. -/
structure World.Unaccounted (w w' : World) : Prop where
  memory : w.store.isMemory = true → w'.store.isMemory = true
  entries : w'.entries = w.entries
  issued : w.issued ≤ w'.issued
  books : w'.services.books = w.services.books
  logs : w.Logs → w'.Logs
  dockets : w'.dockets = w.dockets
  posted : w'.posted = w.posted

/-- Records are made besides those that there were. -/
structure World.Makes (w w' : World) (made : List Effect) : Prop where
  logs : w'.Logs
  numbered : w'.services.IsNumbered
  effects : w'.effects.Perm (w.effects ++ made)
  dockets : ∀ x ∈ w.dockets, x ∈ w'.dockets

namespace World

variable {w w' : World}

theorem dockets_of_sameMail (same : w.SameMail w') : w'.dockets = w.dockets :=
  congrArg (List.map DeliveryLine.docket) same.mail

theorem Unaccounted.of_sameMail (memory : w.store.isMemory = true → w'.store.isMemory = true)
    (entries : w'.entries = w.entries) (issued : w.issued ≤ w'.issued)
    (books : w'.services.books = w.services.books) (same : w.SameMail w') : Unaccounted w w' where
  memory := memory
  entries := entries
  issued := issued
  books := books
  logs logs := logs.of_same same
  dockets := dockets_of_sameMail same
  posted := same.posted

theorem Unaccounted.withFaults (w : World) (faults : List Fault) :
    Unaccounted w { w with faults } :=
  .of_sameMail (fun memory => memory) rfl (Nat.le_refl _) rfl (.withFaults w faults)

/-- What neither writes an entry nor concerns the log of deliveries nor makes a record. -/
theorem unaccounted_answer (w : World) {r : Request} (plain : r.isRecording = false) :
    Unaccounted w (w.answer r).2 := by
  obtain ⟨writes, postal, cause⟩ := r.plain_of_isRecording plain
  obtain ⟨entries, issued⟩ := w.plain_answer writes
  exact .of_sameMail (isMemory_answer w r).trans entries (Nat.le_of_eq issued.symm)
    (w.books_answer cause) (w.sameMail_answer postal)

/-- A record that is new to the services is a record that is made. -/
theorem makes_of_services {x : Effect} (logs : w.Logs) (same : w.SameMail w')
    (numbered : w'.services.IsNumbered)
    (effects : w'.services.effects.Perm (w.services.effects ++ [x])) : w.Makes w' [x] where
  logs := logs.of_same same
  numbered := numbered
  effects := by
    rw [effects_eq_dockets, effects_eq_dockets, dockets_of_sameMail same]
    refine (effects.append_right _).trans ?_
    rw [List.append_assoc, List.append_assoc]
    exact List.perm_append_comm.append_left _
  dockets := by rw [dockets_of_sameMail same]; exact fun _ => id

/-- A record of the services is made, unless the call fails before. -/
theorem makes_of_serving (w : World) {r : Request} (serves : r.cause?.isSome = true)
    (logs : w.Logs) (numbered : w.services.IsNumbered) (e : Execution) :
    (∃ f faults, w.answer r = (.error f, { w with faults })) ∨
      ∃ x, accounting.next (.holding e none) r (w.answer r).1 = .holding e (some x) ∧
        w.Makes (w.answer r).2 [x] ∧ (w.answer r).2.posted = w.posted := by
  have postal : r.isPostal = false := by
    cases r <;> first | rfl | cases serves
  have same := w.sameMail_answer postal
  rcases w.answer_cases r with ⟨no, _⟩ | ⟨f, faults, ha⟩ | ⟨faults, ha⟩
  · cases r <;> first | cases no | cases serves
  · exact .inl ⟨f, faults, ha⟩
  · rw [ha] at same ⊢
    refine .inr ?_
    cases r with
    | createTask t =>
        refine ⟨_, rfl, makes_of_services logs same (numbered.createTask t) ?_, same.posted⟩
        simp only [perform, serving, Services.createTask, Services.effects, List.map_append,
          List.append_assoc]
        refine List.Perm.append_left _ (List.perm_append_comm.trans ?_)
        rw [List.append_assoc]
        exact .refl _
    | createActivity a =>
        refine ⟨_, rfl, makes_of_services logs same (numbered.createActivity a) ?_, same.posted⟩
        simp only [perform, serving, Services.createActivity, Services.effects, List.map_append,
          List.append_assoc]
        exact (List.perm_append_comm.append_left _).append_left _
    | logEmail m =>
        refine ⟨_, rfl, makes_of_services logs same (numbered.logEmail m) ?_, same.posted⟩
        simp only [perform, serving, Services.logEmail, Services.effects, List.map_append,
          List.append_assoc]
        exact .refl _
    | _ => cases serves

/-- A delivery that is opened is a record that is made. -/
theorem makes_of_opening {d : Delivery} (numbered : w.services.IsNumbered)
    (books : w'.services.books = w.services.books) (on : w.LogsOn w' (w.mail ++ [d.line])) :
    w.Makes w' [d.line.effect] where
  logs := on.logs
  numbered := numbered.of_books books
  effects := by
    rw [effects, effects, Services.effects_of_books books, on.mail, List.map_append,
      ← List.append_assoc]
    exact .refl _
  dockets x hx := by
    rw [dockets, on.mail, List.map_append]
    exact List.mem_append_left _ hx

/-- A line is written anew as of the same delivery. -/
theorem dockets_modify {d d' : Delivery} (logs : w.Logs) (logged : d.IsLogged w)
    (id : d'.id = d.id) (effect : d'.line.effect = d.line.effect) :
    (Keyed.modify DeliveryLine.id d'.id (fun _ => d'.line) w.mail).map DeliveryLine.docket
      = w.dockets := by
  obtain ⟨l, hl, docket⟩ := List.mem_map.mp logged.docket
  have sameId : l.id = d.id := congrArg Prod.fst docket
  rw [Keyed.modify, List.map_map]
  refine List.map_congr_left fun x hx => ?_
  show (if x.id = d'.id then d'.line else x).docket = x.docket
  split
  · rename_i here
    obtain rfl := List.inj_on_of_nodup_map logs.once hx hl (here.trans (id.trans sameId.symm))
    rw [docket, DeliveryLine.docket, DeliveryLine.docket, effect]
    exact congrArg (·, _) id
  · rfl

theorem effects_of_same (books : w'.services.books = w.services.books)
    (dockets : w'.dockets = w.dockets) : w'.effects = w.effects := by
  rw [effects_eq_dockets, effects_eq_dockets, Services.effects_of_books books, dockets]

end World

namespace Accounted

variable {w w' : World} {before after ps : List Telling} {p q : Telling} {e e' : Execution}
  {d d' : Delivery} {r : Request} {made told : List Effect}

theorem elsewhere (h : Accounted w ps) (same : w.Unaccounted w') : Accounted w' ps := by
  have logged {d : Delivery} (there : d.IsLogged w) : d.IsLogged w' :=
    ⟨same.dockets ▸ there.docket, there.legible⟩
  exact {
    memory := same.memory h.memory
    holders := by rw [same.entries]; exact h.holders.later same.issued
    logs := same.logs h.logs
    numbered := h.numbered.of_books same.books
    waiting := by rw [same.posted]; exact fun d hd => logged (h.waiting d hd)
    borne := fun p hp d has => logged (h.borne p hp d has)
    balance := by
      rw [World.effects_of_same same.books same.dockets, same.entries]
      exact h.balance
    frank := by rw [same.entries]; exact h.frank }

/-- What a step makes is added to what is yet to be told, and what it tells is taken from it. -/
theorem balance_middle (h : Accounted w (before ++ p :: after))
    (effects : w'.effects.Perm (w.effects ++ made))
    (entries : (w'.entries.flatMap Execution.effects).Perm
      (w.entries.flatMap Execution.effects ++ told))
    (passed : (p.untold?.toList ++ made).Perm (told ++ q.untold?.toList)) :
    w'.effects.Perm (w'.entries.flatMap Execution.effects
      ++ (before ++ q :: after).filterMap Telling.untold?) := by
  have middle (p : Telling) : (before ++ p :: after).filterMap Telling.untold?
      = before.filterMap Telling.untold? ++ (p.untold?.toList
        ++ after.filterMap Telling.untold?) := by
    rw [List.filterMap_append, List.filterMap_cons]
    cases p.untold? <;> rfl
  have balance := h.balance
  rw [middle] at balance ⊢
  rw [← Multiset.coe_eq_coe] at effects entries passed balance ⊢
  simp only [← Multiset.coe_add] at effects entries passed balance ⊢
  calc (w'.effects : Multiset Effect)
      = w.entries.flatMap Execution.effects + (before.filterMap Telling.untold?
          + after.filterMap Telling.untold?) + (p.untold?.toList + made) := by
        rw [effects, balance]
        abel
    _ = _ := by
        rw [passed, entries]
        abel

/-- A step after which all is accounted for that there was or was made. -/
theorem onward (h : Accounted w (before ++ p :: after)) (told : List Effect)
    (memory : w'.store.isMemory = true) (makes : w.Makes w' made)
    (holders : Holders Telling.inHand? w'.entries w'.issued (before ++ q :: after))
    (entries : (w'.entries.flatMap Execution.effects).Perm
      (w.entries.flatMap Execution.effects ++ told))
    (passed : (p.untold?.toList ++ made).Perm (told ++ q.untold?.toList))
    (waiting : ∀ d ∈ w'.posted, d ∈ w.posted ∨ p.delivery? = some d)
    (borne : ∀ d, q.delivery? = some d → d.IsLogged w')
    (frank : ∀ e ∈ w'.entries, e.IsFrank) : Accounted w' (before ++ q :: after) := by
  obtain ⟨here, others⟩ := forall_mem_middle.mp h.borne
  have logged {d : Delivery} (there : d.IsLogged w) : d.IsLogged w' :=
    ⟨makes.dockets _ there.docket, there.legible⟩
  exact {
    memory := memory
    holders := holders
    logs := makes.logs
    numbered := makes.numbered
    waiting := by
      intro d hd
      rcases waiting d hd with old | new
      · exact logged (h.waiting d old)
      · exact logged (here d new)
    borne := forall_mem_middle.mpr ⟨borne, fun p hp d has => logged (others p hp d has)⟩
    balance := h.balance_middle makes.effects entries passed
    frank := frank }

/-- A step that writes no entry. -/
theorem onward_apart (h : Accounted w (before ++ p :: after)) (memory : w'.store.isMemory = true)
    (makes : w.Makes w' made) (entries : w'.entries = w.entries) (issued : w'.issued = w.issued)
    (has : q.inHand? = p.inHand?) (passed : (p.untold?.toList ++ made).Perm q.untold?.toList)
    (waiting : ∀ d ∈ w'.posted, d ∈ w.posted ∨ p.delivery? = some d)
    (borne : ∀ d, q.delivery? = some d → d.IsLogged w') :
    Accounted w' (before ++ q :: after) := by
  refine h.onward [] memory makes ?_ ?_ passed waiting borne ?_
  · rw [entries, issued]
    exact h.holders.pass has
  · rw [entries, List.append_nil]
  · rw [entries]
    exact h.frank

theorem makes_nothing (h : Accounted w ps) (books : w'.services.books = w.services.books)
    (logs : w'.Logs) (dockets : w'.dockets = w.dockets) : w.Makes w' [] where
  logs := logs
  numbered := h.numbered.of_books books
  effects := by rw [World.effects_of_same books dockets, List.append_nil]
  dockets := by rw [dockets]; exact fun _ => id

theorem makes_nothing_of_sameMail (h : Accounted w ps)
    (books : w'.services.books = w.services.books) (mail : w.SameMail w') : w.Makes w' [] :=
  h.makes_nothing books (h.logs.of_same mail) (World.dockets_of_sameMail mail)

/-! ### Steps -/

/-- An entry is opened that tells of nothing. -/
theorem opens (h : Accounted w (before ++ .idle :: after)) (empty : e.outcomes = []) :
    Accounted (w.answer (.openExecution e)).2
      (before ++ accounting.next .idle (.openExecution e) (w.answer (.openExecution e)).1
        :: after) := by
  rcases World.entries_openExecution h.memory e with
    ⟨f, faults, ha⟩ | ⟨e', rfl, ok, entries, issued⟩
  · rw [ha]
    exact h.elsewhere (.withFaults w faults)
  · rw [put_of_fresh h.holders.fresh] at entries
    have memory := (World.isMemory_answer w (.openExecution e)).trans h.memory
    have mail := w.sameMail_answer (r := .openExecution e) rfl
    have makes := h.makes_nothing_of_sameMail (w.books_answer (r := .openExecution e) rfl) mail
    have silent : Execution.effects { e with id := .issued (w.issued + 1) } = [] := by
      rw [Execution.effects, empty]
      rfl
    rw [ok]
    refine h.onward [] memory makes ?_ ?_ (.refl _) ?_ ?_ ?_
    · rw [entries, issued]
      exact h.holders.opened rfl rfl
    · rw [entries, List.flatMap_append, List.flatMap_singleton, silent]
    · rw [mail.posted]
      exact fun _ => .inl
    · intro d no
      cases no
    · rw [entries]
      intro x hx
      rcases List.mem_append.mp hx with hx | hx
      · exact h.frank x hx
      · obtain rfl := List.mem_singleton.mp hx
        intro o ho
        rw [empty] at ho
        cases ho

/-- A record of the services is made that is then to be told of. -/
theorem makes (h : Accounted w (before ++ .holding e none :: after))
    (serves : r.cause?.isSome = true) :
    Accounted (w.answer r).2
      (before ++ accounting.next (.holding e none) r (w.answer r).1 :: after) := by
  have writes : r.writesEntry = false := by
    cases r <;> first | rfl | cases serves
  obtain ⟨entries, issued⟩ := w.plain_answer writes
  have memory := (World.isMemory_answer w r).trans h.memory
  rcases w.makes_of_serving serves h.logs h.numbered e with
    ⟨f, faults, ha⟩ | ⟨x, next, makes, posted⟩
  · have stays : accounting.next (.holding e none) r (.error f) = .holding e none := by
      cases r <;> first | rfl | cases serves
    rw [ha, stays]
    exact h.elsewhere (.withFaults w faults)
  · rw [next]
    refine h.onward_apart memory makes entries issued rfl (.refl _) ?_ ?_
    · rw [posted]
      exact fun _ => .inl
    · intro d no
      cases no

/-- A delivery is opened that is then to be started and told of. -/
theorem submits (h : Accounted w (before ++ .holding e none :: after))
    (legible : d.line.IsLegible) :
    Accounted (w.answer (.openDelivery d)).2
      (before ++ accounting.next (.holding e none) (.openDelivery d)
        (w.answer (.openDelivery d)).1 :: after) := by
  obtain ⟨entries, issued⟩ := w.plain_answer (r := .openDelivery d) rfl
  have books := w.books_answer (r := .openDelivery d) rfl
  have memory := World.isMemory_answer w (.openDelivery d)
  rcases h.logs.openDelivery legible with ⟨f, failed, same⟩ | ⟨d', rfl, ok, on⟩
  · rw [failed]
    exact h.elsewhere (.of_sameMail memory.trans entries (Nat.le_of_eq issued.symm) books same)
  · rw [ok]
    have makes := World.makes_of_opening h.numbered books on
    refine h.onward_apart (memory.trans h.memory) makes entries issued rfl (.refl _) ?_ ?_
    · rw [on.posted]
      exact fun _ => .inl
    · intro x has
      obtain rfl := Option.some.inj has
      refine ⟨?_, legible⟩
      rw [World.dockets, on.mail, List.map_append]
      exact List.mem_append_right _ (List.mem_singleton_self _)

/-- A delivery that has been opened is started. -/
theorem starts {job : QueuedDelivery} (h : Accounted w (before ++ .owing e job.delivery :: after)) :
    Accounted (w.answer (.start (.delivery job))).2
      (before ++ .holding e (some job.delivery.line.effect) :: after) := by
  have makes : w.Makes (w.answer (.start (.delivery job))).2 [] :=
    h.makes_nothing rfl (h.logs.of_queue _) rfl
  refine h.onward_apart h.memory makes rfl rfl rfl (.refl _) ?_ ?_
  · intro d hd
    rw [w.posted_start] at hd
    rcases List.mem_append.mp hd with hd | hd
    · exact .inl hd
    · exact .inr (congrArg some (List.mem_singleton.mp hd).symm)
  · intro d no
    cases no

/-- An entry is shown, and with it what was yet to be told of. -/
theorem shows {untold : Option Effect} (h : Accounted w (before ++ .holding e untold :: after))
    (continues : e.Continues untold.toList e') :
    Accounted (w.answer (.publishExecution e')).2 (before ++ .holding e' none :: after) := by
  have id : e'.id = e.id := congrArg Prod.fst continues.identity
  have mail := w.sameMail_answer (r := .publishExecution e') rfl
  have memory := (World.isMemory_answer w (.publishExecution e')).trans h.memory
  have makes := h.makes_nothing_of_sameMail (w.books_answer (r := .publishExecution e') rfl) mail
  have entries := World.entries_publishExecution h.memory e'
  refine h.onward untold.toList memory makes ?_ ?_ ?_ ?_ ?_ ?_
  · rw [entries]
    exact h.holders.shown rfl id rfl
  · obtain ⟨front, back, there, place⟩ := h.holders.exists_place rfl id
    rw [entries, place, there]
    simp only [List.flatMap_append, List.flatMap_cons, continues.effects, List.append_assoc]
    exact (List.perm_append_comm.append_left _).append_left _
  · rw [List.append_nil]
    exact (List.append_nil _).symm ▸ .refl _
  · rw [mail.posted]
    exact fun _ => .inl
  · intro d no
    cases no
  · rw [entries]
    intro x hx
    rcases Keyed.mem_modify hx with rfl | ⟨hx, _⟩
    · exact continues.frank (h.frank e (h.holders.mem rfl))
    · exact h.frank x hx

/-- An entry that was shown is stored as it stands. -/
theorem finishes (h : Accounted w (before ++ .holding e none :: after)) :
    Accounted (w.answer (.finishExecution e)).2 (before ++ .holding e none :: after) := by
  have same : Keyed.put Execution.id e w.entries = w.entries :=
    Keyed.put_self h.holders.once (h.holders.mem rfl)
  obtain ⟨issued, entries⟩ := World.entries_finishExecution h.memory e
  have kept : (w.answer (.finishExecution e)).2.entries = w.entries := by
    rcases entries with kept | written
    · exact kept
    · rw [written, same]
  exact h.elsewhere (.of_sameMail (World.isMemory_answer w _).trans kept
    (Nat.le_of_eq issued.symm) (w.books_answer rfl) (w.sameMail_answer rfl))

/-- A line is written anew as of the same delivery. -/
theorem rewrites (h : Accounted w (before ++ .bearing d :: after)) (id : d'.id = d.id)
    (effect : d'.line.effect = d.line.effect)
    (memory : w'.store.isMemory = w.store.isMemory)
    (entries : w'.entries = w.entries ∧ w'.issued = w.issued)
    (books : w'.services.books = w.services.books)
    (on : w.LogsOn w' w.mail ∨
      w.LogsOn w' (Keyed.modify DeliveryLine.id d'.id (fun _ => d'.line) w.mail)) :
    Accounted w' (before ++ .bearing d :: after) := by
  have logged := (forall_mem_middle.mp h.borne).1 d rfl
  exact h.elsewhere {
    memory := memory.trans
    entries := entries.1
    issued := Nat.le_of_eq entries.2.symm
    books := books
    logs := fun _ => on.elim (·.logs) (·.logs)
    dockets := by
      rcases on with on | on
      · exact congrArg (List.map DeliveryLine.docket) on.mail
      · rw [World.dockets, on.mail]
        exact World.dockets_modify h.logs logged id effect
    posted := on.elim (·.posted) (·.posted) }

/-- No answer to work that keeps to the code leaves a record unaccounted for. -/
theorem answer (h : Accounted w (before ++ p :: after)) (allowed : accounting.may p r) :
    Accounted (w.answer r).2 (before ++ accounting.next p r (w.answer r).1 :: after) := by
  cases allowed with
  | plain plain told =>
      rw [show accounting.next p r _ = p from Accounting.next_of_plain plain _]
      exact h.elsewhere (w.unaccounted_answer plain)
  | opens empty => exact h.opens empty
  | makes cause => exact h.makes (cause ▸ rfl)
  | submits legible workflowId executionId => exact h.submits legible
  | starts same =>
      subst same
      exact h.starts
  | shows continues =>
      rw [Accounting.next_shows]
      exact h.shows continues
  | finishes => exact h.finishes
  | tells id effect =>
      have logged := (forall_mem_middle.mp h.borne).1 _ rfl
      exact h.rewrites id effect (World.isMemory_answer w _) (w.plain_answer rfl)
        (w.books_answer rfl) (h.logs.publishDelivery (id ▸ logged.mem))
  | @saves d d' id effect legible =>
      have logged := (forall_mem_middle.mp h.borne).1 _ rfl
      have memory := World.isMemory_answer w (.saveDelivery d')
      have entries := w.plain_answer (r := .saveDelivery d') rfl
      have books := w.books_answer (r := .saveDelivery d') rfl
      rcases h.logs.saveDelivery (id ▸ logged.mem) legible with ⟨f, failed, same⟩ | ⟨ok, on⟩
      · exact h.elsewhere (.of_sameMail memory.trans entries.1 (Nat.le_of_eq entries.2.symm) books
          same)
      · exact h.rewrites id effect memory entries books (.inr on)

/-- What is opened is answered as it was asked for, and what is started starts. -/
theorem expected (h : Accounted w (before ++ p :: after)) (allowed : accounting.may p r) :
    accounting.expects r (w.answer r).1 := by
  cases r with
  | openExecution e =>
      rcases World.entries_openExecution h.memory e with ⟨f, faults, ha⟩ | ⟨e', rfl, ok, _⟩
      · rw [ha]
        trivial
      · rw [ok]
        exact ⟨_, rfl⟩
  | openDelivery d =>
      have legible : d.line.IsLegible := by
        cases allowed with
        | plain plain => cases plain
        | makes cause => cases cause
        | submits legible => exact legible
      rcases h.logs.openDelivery legible with ⟨f, failed, _⟩ | ⟨d', rfl, ok, _⟩
      · rw [failed]
        trivial
      · rw [ok]
        exact ⟨_, rfl⟩
  | _ => trivial

/-- Work that was waiting begins. -/
theorem begun {works later : List Background} {work : Background}
    (h : Accounted w ps) (queued : w.queue = works ++ work :: later) :
    Accounted { w with queue := works ++ later } (ps ++ [Accounting.begins work]) where
  memory := h.memory
  holders := h.holders.begun (by cases work <;> rfl)
  logs := h.logs.of_queue _
  numbered := h.numbered
  waiting d hd := by
    obtain ⟨docket, legible⟩ := h.waiting d ((World.mem_posted_iff queued).mpr (.inl hd))
    exact ⟨docket, legible⟩
  borne p hp d has := by
    rcases List.mem_append.mp hp with hp | hp
    · obtain ⟨docket, legible⟩ := h.borne p hp d has
      exact ⟨docket, legible⟩
    · obtain rfl := List.mem_singleton.mp hp
      cases work with
      | run q => cases has
      | delivery job =>
          obtain rfl := Option.some.inj has
          obtain ⟨docket, legible⟩ := h.waiting _ ((World.mem_posted_iff queued).mpr (.inr rfl))
          exact ⟨docket, legible⟩
  balance := by
    have told : [Accounting.begins work].filterMap Telling.untold? = [] := by
      cases work <;> rfl
    rw [List.filterMap_append, told, List.append_nil]
    exact h.balance
  frank := h.frank

end Accounted

/-- What may happen to a world besides: nothing to the entries, to the log of deliveries, and to the
tasks, activities and e-mails. -/
structure World.AmidAccounts (w w' : World) : Prop where
  table : w'.store.table = w.store.table
  issued : w.issued ≤ w'.issued
  mail : w.SameMail w'
  books : w'.services.books = w.services.books

theorem World.AmidAccounts.unaccounted {w w' : World} (h : w.AmidAccounts w') :
    w.Unaccounted w' :=
  .of_sameMail (congrArg Sum.isLeft h.table).trans (entries_of_table h.table) h.issued h.books
    h.mail

theorem attends_accounting (settings : Settings) :
    System.Attends accounting Telling.ends Telling.suits settings World.AmidAccounts Accounted where
  answered w before p after r h allowed := ⟨h.expected allowed, h.answer allowed⟩
  suited p r x work _ suits := Accounting.suits_next x suits
  begun w ps before work after h queued := by
    refine ⟨Accounting.begins work, Accounting.suits_begins work,
      Accounting.leads_work settings work ?_, h.begun queued⟩
    intro d begins
    exact (h.waiting d ((World.mem_posted_iff queued).mpr (.inr begins))).legible
  changed w w' ps amid h := h.elsewhere amid.unaccounted

/-! ## Records are told apart -/

/-- By what a record is told apart. -/
def Effect.key (x : Effect) : ActionKind × Value := (x.kind, x.id)

/-- The keys of so many numbered records. -/
def issuedKeys (kind : ActionKind) (sort : String) (n : Nat) : List (ActionKind × Value) :=
  (List.range n).map fun i => (kind, .text (Services.issue sort i))

theorem kind_of_mem_issuedKeys {kind : ActionKind} {sort : String} {n : Nat}
    {key : ActionKind × Value} (h : key ∈ issuedKeys kind sort n) : key.1 = kind := by
  obtain ⟨i, _, rfl⟩ := List.mem_map.mp h
  rfl

theorem nodup_issuedKeys (kind : ActionKind) (sort : String) (n : Nat) :
    (issuedKeys kind sort n).Nodup := by
  refine List.nodup_range.map ?_
  intro i j same
  exact Services.issue_injective sort (Value.text.inj (congrArg Prod.snd same))

theorem disjoint_issuedKeys {kind kind' : ActionKind} (other : kind ≠ kind') (sort sort' : String)
    (n n' : Nat) : List.Disjoint (issuedKeys kind sort n) (issuedKeys kind' sort' n') := by
  intro key here there
  exact other ((kind_of_mem_issuedKeys here).symm.trans (kind_of_mem_issuedKeys there))

/-- What is numbered has the keys of so many numbered records. -/
theorem map_key_eq {α : Type} {effect : α → Effect} {id : α → String} {xs : List α}
    {kind : ActionKind} {sort : String}
    (h : xs.map id = (List.range xs.length).map (Services.issue sort))
    (key : ∀ x, (effect x).key = (kind, .text (id x))) :
    (xs.map effect).map Effect.key = issuedKeys kind sort xs.length := by
  have keys : (xs.map effect).map Effect.key = (xs.map id).map fun s => (kind, Value.text s) := by
    simp only [List.map_map, Function.comp_def, key]
  rw [keys, h, List.map_map]
  rfl

namespace Accounted

variable {w : World} {ps : List Telling}

/-- No two records have one key. -/
theorem nodup_keys (h : Accounted w ps) : (w.effects.map Effect.key).Nodup := by
  have deliveries : w.mail.map (fun l => l.id.deliveryText)
      = (List.range w.mail.length).map (Services.issue "delivery") := by
    have count : w.mail.length = w.saved.length := by
      simpa using congrArg List.length h.logs.numbered
    have texts : w.mail.map (fun l => l.id.deliveryText)
        = (w.mail.map DeliveryLine.id).map RecordId.deliveryText := List.map_map.symm
    rw [texts, h.logs.numbered, List.map_map, count]
    rfl
  simp only [World.effects, Services.effects, List.map_append]
  rw [map_key_eq h.numbered.tasks fun _ => rfl, map_key_eq h.numbered.activities fun _ => rfl,
    map_key_eq h.numbered.emails fun _ => rfl, map_key_eq deliveries fun _ => rfl]
  simp only [List.nodup_append', List.disjoint_append_left, nodup_issuedKeys, true_and]
  refine ⟨⟨?_, ?_, ?_⟩, ⟨?_, ?_⟩, ?_⟩ <;> exact disjoint_issuedKeys (by decide) _ _ _ _

end Accounted

/-! ## Where no run is in progress -/

/-- What a program asks for next. -/
def Prog.head? {α : Type} : Prog α → Option Request
  | .call r _ => some r
  | _ => none

theorem Prog.Only.head {α : Type} {allowed : Request → Prop} {m : Prog α} {r : Request}
    (h : m.Only allowed) (head : m.head? = some r) : allowed r := by
  cases m with
  | call r' rest =>
      obtain rfl := Option.some.inj head
      exact h.1
  | _ => cases head

/-- What is yet to be told of is told, or started, before anything else. -/
theorem Accounting.head_of_untold {α : Type} {m : Prog α} {p : Telling} {x : Effect}
    (leads : m.Leads accounting (fun _ => Telling.ends) p) (untold : p.untold? = some x) :
    ∃ r, m.head? = some r ∧ r.isRecording = true := by
  cases m with
  | done a => cases untold.symm.trans leads
  | fail f => cases untold.symm.trans leads
  | call r rest =>
      refine ⟨r, rfl, ?_⟩
      cases leads.1 with
      | plain plain told => cases untold.symm.trans told
      | starts | shows => rfl
      | _ => cases untold

/-- Services and a memory store without records. -/
structure World.IsBlank (w : World) : Prop where
  memory : w.store.isMemory = true
  entries : w.entries = []
  mail : w.mail = []
  saved : w.saved = []
  waiting : w.posted = []
  books : w.services.books = ([], [], [])

/-- Calls are about to begin, over services and a memory store without records. -/
structure System.StartsBlank (settings : Settings) (s : System (List Uid ⊕ RecordId)) : Prop where
  calls : ∀ c ∈ s.calls, ∃ call : Call, c = call.program settings
  tasks : s.tasks = []
  world : s.world.IsBlank

/-- Where there are no records all is accounted for. -/
theorem Accounted.of_isBlank {w : World} (h : w.IsBlank) (n : Nat) :
    Accounted w (List.replicate n .idle) := by
  have books := h.books
  simp only [Services.books, Prod.mk.injEq] at books
  obtain ⟨tasks, activities, emails⟩ := books
  have idle {p : Telling} (hp : p ∈ List.replicate n Telling.idle) : p = .idle :=
    List.eq_of_mem_replicate hp
  exact {
    memory := h.memory
    holders := {
      once := by rw [h.entries]; exact List.nodup_nil
      issued := by rw [h.entries]; exact List.forall_mem_nil _
      there := by
        intro p hp e has
        rw [idle hp] at has
        cases has
      apart := by
        rw [List.filterMap_replicate_of_none rfl]
        exact List.nodup_nil }
    logs := {
      shared := by
        intro ds same
        have none := h.mail
        rw [World.mail, Store.mail, same] at none
        rw [List.map_eq_nil_iff.mp none]
        exact List.forall_mem_nil _
      numbered := by rw [h.mail, h.saved]; rfl
      saved := by rw [h.mail, h.saved]; rfl }
    numbered := ⟨by rw [tasks]; rfl, by rw [activities]; rfl, by rw [emails]; rfl⟩
    waiting := by rw [h.waiting]; exact List.forall_mem_nil _
    borne := by
      intro p hp d has
      rw [idle hp] at has
      cases has
    balance := by
      rw [List.filterMap_replicate_of_none rfl, h.entries, World.effects, h.mail, Services.effects,
        tasks, activities, emails]
      exact .refl _
    frank := by rw [h.entries]; exact List.forall_mem_nil _ }

/-- The work in a system keeps to the code, and its records are accounted for. -/
def System.AddsUp (s : System (List Uid ⊕ RecordId)) : Prop :=
  System.Attended accounting Telling.ends Telling.suits Accounted s

namespace System.AddsUp

variable {settings : Settings} {s t : System (List Uid ⊕ RecordId)}

theorem of_startsBlank (h : s.StartsBlank settings) : AddsUp s := by
  refine System.Attended.of_start .idle ?_ h.tasks (.of_isBlank h.world _)
  intro c hc
  obtain ⟨call, rfl⟩ := h.calls c hc
  exact Accounting.leads_call settings call

theorem of_reachable (h : AddsUp s)
    (reachable : System.Reachable settings World.AmidAccounts s t) : AddsUp t :=
  System.Attended.of_reachable (attends_accounting settings) reachable h

/-- What is over, has yet to begin or is a dispatch has nothing to tell. -/
theorem told_of_quiet {c : Prog (List Uid ⊕ RecordId)} {p : Telling}
    (leads : c.Leads accounting (fun _ => Telling.ends) p)
    (quiet : c.isOver = true ∨ (∃ call : Call, c = call.program settings) ∨
      ∃ kind context, (Call.program settings (.dispatch kind context)).Leaves c) :
    p.untold? = none := by
  cases untold : p.untold? with
  | none => rfl
  | some x =>
      obtain ⟨r, head, recording⟩ := Accounting.head_of_untold leads untold
      have dispatches {kind : Open TriggerKind} {context : Context}
          (leaves : (Call.program settings (.dispatch kind context)).Leaves c) : False := by
        have only : (Call.program settings (.dispatch kind context)).Only
            fun r => r.isMatching = true :=
          Prog.only_map _ (Keeping.matches_dispatch kind context)
        have silent := Request.isRecording_of_isMatching ((only.leaves leaves).head head)
        rw [recording] at silent
        cases silent
      rcases quiet with isOver | ⟨call, rfl⟩ | ⟨kind, context, leaves⟩
      · exact untold.symm.trans (leads.ends isOver)
      · cases call with
        | dispatch kind context => exact (dispatches .whole).elim
        | run id trigger context triggeredBy =>
            obtain rfl : Request.getWorkflow id = r := Option.some.inj head
            cases recording
      · exact (dispatches leaves).elim

/-- Where no run is in progress nothing is yet to be told. -/
theorem told_of_hasNoRun (h : AddsUp s) (quiet : s.HasNoRun settings) :
    ∃ ps, Accounted s.world ps ∧ ∀ p ∈ ps, p.untold? = none := by
  obtain ⟨calls, tasks, hcalls, htasks, leads, keeps, accounted⟩ := h
  refine ⟨_, accounted, ?_⟩
  intro p hp
  rcases List.mem_append.mp hp with call | task
  · obtain ⟨⟨p, c⟩, hc, rfl⟩ := List.mem_map.mp call
    exact told_of_quiet (leads _ hc) (quiet.calls c (hcalls ▸ List.mem_map_of_mem hc))
  · obtain ⟨⟨p, t⟩, ht, rfl⟩ := List.mem_map.mp task
    obtain ⟨goesOn, suits⟩ := keeps _ ht
    cases work : t.work.isRun with
    | true => exact goesOn.ends (quiet.tasks t (htasks ▸ List.mem_map_of_mem ht) work)
    | false =>
        have conveys : p.isTeller = false := suits.trans work
        cases p with
        | bearing d => rfl
        | _ => cases conveys

end System.AddsUp

/-- However dispatches, runs by hand and the background interleave, from services and a memory
store without records on: no two of the tasks, activities, e-mails and deliveries have one
identifier; every outcome of success in the ledger names one of them that was made for its run, and
no other outcome names any; and where no run is in progress records and outcomes correspond one to
one. -/
theorem effects_accounted (settings : Settings) {start s : System (List Uid ⊕ RecordId)}
    (blank : start.StartsBlank settings)
    (reachable : System.Reachable settings World.AmidAccounts start s) :
    (s.world.effects.map Effect.key).Nodup ∧
      (s.world.entries.flatMap Execution.effects).Subperm s.world.effects ∧
      (∀ e ∈ s.world.entries, ∀ o ∈ e.outcomes, o.status ≠ .success → o.result = .null) ∧
      (s.HasNoRun settings →
        s.world.effects.Perm (s.world.entries.flatMap Execution.effects)) := by
  have addsUp := (System.AddsUp.of_startsBlank blank).of_reachable reachable
  have ⟨_, _, _, _, _, _, accounted⟩ := addsUp
  refine ⟨accounted.nodup_keys, ?_, accounted.frank, ?_⟩
  · exact (List.sublist_append_left _ _).subperm.trans accounted.balance.symm.subperm
  · intro quiet
    obtain ⟨ps, accounted, told⟩ := addsUp.told_of_hasNoRun quiet
    have balance := accounted.balance
    rwa [List.filterMap_eq_nil_iff.mpr told, List.append_nil] at balance

/-- A deal gets a task and is told of; what is then written to a field that is not named fails. -/
def welcome : Filed Workflow := Store.copy {
  id := ⟨4⟩
  entityType := "deal"
  status := .known .active
  actions := [
    { id := ⟨5⟩, kind := .known .createTask },
    { id := ⟨6⟩, kind := .known .sendWebhook, config := .record [("url", .text "https://h/x")] },
    { id := ⟨7⟩, kind := .known .updateField }] }

theorem topLevel_welcome : Run.topLevel welcome.record = welcome.record.actions := by
  have sorted : Action.inOrder welcome.record.actions = welcome.record.actions :=
    Amount.inOrder_of_rising (by decide) (by decide +kernel)
  show (Action.inOrder welcome.record.actions).filter _ = _
  rw [sorted]
  rfl

/-- A run of the workflow that is asked for by hand. -/
def welcomed : System (List Uid ⊕ RecordId) where
  world := { store := .memory { workflows := [welcome] } }
  calls := [(Call.run ⟨4⟩ (.known .manual) newDeal none).program {}]
  tasks := []

theorem welcomed_startsBlank : welcomed.StartsBlank {} where
  calls c hc := by
    obtain rfl := List.mem_singleton.mp hc
    exact ⟨_, rfl⟩
  tasks := rfl
  world := ⟨rfl, rfl, rfl, rfl, rfl, rfl⟩

/-- The run has failed, after it has made a task and a delivery and has told of both. -/
theorem welcomed_accounted :
    welcomed.StartsBlank {} ∧ ∃ s, System.Reachable {} World.AmidAccounts welcomed s ∧
      s.HasNoRun {} ∧ s.world.entries.map Execution.status = [.known .failed] ∧
      s.world.effects.map Effect.id = [.text "task#1", .text "delivery#1"] ∧
      s.world.effects.Perm (s.world.entries.flatMap Execution.effects) := by
  have waiting : System.Reachable {} World.AmidAccounts welcomed welcomed := .refl
  have started : System.Reachable {} World.AmidAccounts welcomed ⟨welcomed.world,
      [Sum.inr <$> (Run.run {} welcome.record (.known .manual) newDeal none >>= fun e =>
        pure e.id)], []⟩ :=
    waiting.step (.call _ [] [] [] (.getWorkflow ⟨4⟩) _ rfl)
  rw [Run.run, topLevel_welcome] at started
  have ended := started.runCall [] [] (by decide)
  have accounted := (effects_accounted {} welcomed_startsBlank ended).2.2.2
  refine ⟨welcomed_startsBlank, _, ended, ?quiet, by decide, rfl, accounted ?quiet⟩
  refine ⟨?_, List.forall_mem_nil _⟩
  intro c hc
  obtain rfl := List.mem_singleton.mp hc
  exact .inl (Prog.isOver_ofExcept _)

end RecordFlow
