/-
# Endings — what becomes of the deliveries that are submitted

Calls, runs and deliveries are under way together, in any interleaving, over a
store of either kind.  Every delivery that is submitted has one line in the
log.  Where no delivery is left to be made, each line tells how its delivery
ended, but for those whose tasks crashed: there are no more open lines than
crashes that the engine has told of.  In calm every line is closed.

All rests on one invariant, `Posted`: somebody answers for each open line.  The
delivery waits for its start, or a piece of work is about to start it, carries
it, or has dropped it.
-/
import Mathlib.Data.List.Perm.Subperm
import RecordFlow.Proofs.Posting
import RecordFlow.Proofs.RunOnce

namespace RecordFlow

/-! ## Who answers for what -/

/-- A delivery that is in the log and that a piece of work has. -/
structure Delivery.IsBorne (d : Delivery) (calm : Prop) (ids : List RecordId) : Prop where
  logged : d.id ∈ ids
  fits : calm → d.Fits

namespace Burden

/-- What is borne is in the log, and open until its end has been told. -/
def Bears (calm : Prop) (ids : List RecordId) : Burden → Prop
  | owing d => d.IsBorne True ids ∧ d.line.isOpen = true
  | carrying d => d.IsBorne calm ids ∧ d.line.isOpen = true
  | closing d => d.IsBorne calm ids ∧ d.line.isClosed = true
  | _ => True

end Burden

/-- Somebody answers for each open line of the log: the delivery waits for its start, or a piece of
work bears it; and no more is dropped than the engine tells of, beyond what it has told before. -/
structure Posted (calm : Prop) (past : Nat) (w : World) (ps : List Burden) : Prop where
  logs : w.Logs
  still : calm → w.IsCalm
  told : ∀ l ∈ w.mail, l.isOpen = true ∨ l.isClosed = true
  waiting : ∀ d ∈ w.posted, d.IsBorne True (w.mail.map DeliveryLine.id) ∧ d.line.isOpen = true
  bears : ∀ p ∈ ps, p.Bears calm (w.mail.map DeliveryLine.id)
  answered : ∀ l ∈ w.mail, l.isOpen = true →
    l.id ∈ w.posted.map Delivery.id ∨ ∃ p ∈ ps, p.owes? = some l.id
  crashes : past + (ps.filterMap Burden.dropped?).length ≤ w.crashes

namespace Burden

theorem Bears.mono {calm : Prop} {ids ids' : List RecordId} {p : Burden} (h : p.Bears calm ids)
    (more : ∀ id ∈ ids, id ∈ ids') : p.Bears calm ids' := by
  cases p with
  | owing d | carrying d | closing d => exact ⟨⟨more _ h.1.logged, h.1.fits⟩, h.2⟩
  | _ => trivial

theorem length_dropped (before : List Burden) (p : Burden) (after : List Burden) :
    ((before ++ p :: after).filterMap dropped?).length
      = ((before ++ after).filterMap dropped?).length + p.dropped?.toList.length := by
  have perm : (before ++ p :: after).Perm (p :: (before ++ after)) := List.perm_middle
  rw [(perm.filterMap dropped?).length_eq, List.filterMap_cons]
  cases p.dropped? <;> simp

end Burden

namespace Posted

variable {calm : Prop} {past : Nat} {w w' : World} {before after ps : List Burden} {p q : Burden}
  {d d' : Delivery}

theorem crashes_middle (h : Posted calm past w (before ++ p :: after))
    (told : w.crashes + q.dropped?.toList.length ≤ w'.crashes) :
    past + ((before ++ q :: after).filterMap Burden.dropped?).length ≤ w'.crashes := by
  have counted := h.crashes
  rw [Burden.length_dropped] at counted ⊢
  omega

/-- A step after which somebody answers for what the one that makes it answered for. -/
theorem onward (h : Posted calm past w (before ++ p :: after)) (logs : w'.Logs)
    (still : calm → w'.IsCalm)
    (more : ∀ id ∈ w.mail.map DeliveryLine.id, id ∈ w'.mail.map DeliveryLine.id)
    (lines : ∀ l ∈ w'.mail, l ∈ w.mail ∨
      (l.isOpen = true ∨ l.isClosed = true) ∧ (l.isOpen = true → q.owes? = some l.id))
    (queued : ∀ d ∈ w'.posted, d ∈ w.posted ∨
      d.IsBorne True (w'.mail.map DeliveryLine.id) ∧ d.line.isOpen = true)
    (stays : ∀ d ∈ w.posted, d ∈ w'.posted)
    (bears : q.Bears calm (w'.mail.map DeliveryLine.id))
    (passed : ∀ l ∈ w'.mail, l.isOpen = true → p.owes? = some l.id →
      l.id ∈ w'.posted.map Delivery.id ∨ q.owes? = some l.id)
    (told : w.crashes + q.dropped?.toList.length ≤ w'.crashes) :
    Posted calm past w' (before ++ q :: after) where
  logs := logs
  still := still
  told l hl := by
    rcases lines l hl with old | new
    · exact h.told l old
    · exact new.1
  waiting d hd := by
    rcases queued d hd with old | new
    · obtain ⟨borne, going⟩ := h.waiting d old
      exact ⟨⟨more _ borne.logged, borne.fits⟩, going⟩
    · exact new
  bears := by
    refine forall_mem_middle.mpr ⟨bears, ?_⟩
    intro r hr
    exact ((forall_mem_middle.mp h.bears).2 r hr).mono more
  answered l hl going := by
    rcases lines l hl with old | new
    · rcases h.answered l old going with waits | ⟨r, hr, owes⟩
      · obtain ⟨d, hd, same⟩ := List.mem_map.mp waits
        exact .inl (same ▸ List.mem_map_of_mem (stays d hd))
      · rcases List.mem_append.mp hr with hr | hr
        · exact .inr ⟨r, List.mem_append_left _ hr, owes⟩
        · rcases List.mem_cons.mp hr with rfl | hr
          · rcases passed l hl going owes with waits | owes
            · exact .inl waits
            · exact .inr ⟨q, by simp, owes⟩
          · exact .inr ⟨r, List.mem_append_right _ (List.mem_cons_of_mem _ hr), owes⟩
    · exact .inr ⟨q, by simp, new.2 going⟩
  crashes := h.crashes_middle told

/-- What leaves the log of deliveries alone. -/
theorem elsewhere (h : Posted calm past w ps) (same : w.SameMail w') (still : calm → w'.IsCalm)
    (told : w.crashes ≤ w'.crashes) : Posted calm past w' ps where
  logs := h.logs.of_same same
  still := still
  told := by rw [same.mail]; exact h.told
  waiting := by rw [same.mail, same.posted]; exact h.waiting
  bears := by rw [same.mail]; exact h.bears
  answered := by rw [same.mail, same.posted]; exact h.answered
  crashes := h.crashes.trans told

/-- What is dropped is told of. -/
theorem drop (h : Posted calm past w (before ++ p :: after)) (owes : p.owes? = some d.id)
    (same : w.SameMail w') (still : calm → w'.IsCalm) (told : w.crashes + 1 ≤ w'.crashes) :
    Posted calm past w' (before ++ .dropped d.id :: after) := by
  have mail := same.mail
  have posted := same.posted
  refine h.onward (h.logs.of_same same) still ?_ ?_ ?_ ?_ trivial ?_ told
  · rw [mail]
    exact fun _ => id
  · rw [mail]
    exact fun _ => .inl
  · rw [posted]
    exact fun _ => .inl
  · rw [posted]
    exact fun _ => id
  · intro l _ _ owed
    exact .inr (owes.symm.trans owed)

/-- A delivery is opened by work that is about to start it. -/
theorem opened (h : Posted calm past w (before ++ .idle :: after))
    (on : w.LogsOn w' (w.mail ++ [d.line])) (still : calm → w'.IsCalm)
    (going : d.line.isOpen = true) (fits : d.Fits) (told : w.crashes ≤ w'.crashes) :
    Posted calm past w' (before ++ .owing d :: after) := by
  refine h.onward on.logs still ?_ ?_ ?_ ?_ ?_ ?_ told
  · intro id there
    rw [on.mail, List.map_append]
    exact List.mem_append_left _ there
  · intro l hl
    rw [on.mail] at hl
    rcases List.mem_append.mp hl with hl | hl
    · exact .inl hl
    · obtain rfl := List.mem_singleton.mp hl
      exact .inr ⟨.inl going, fun _ => rfl⟩
  · rw [on.posted]
    exact fun _ => .inl
  · rw [on.posted]
    exact fun _ => id
  · refine ⟨⟨?_, fun _ => fits⟩, going⟩
    rw [on.mail]
    simp
  · intro l _ _ owed
    cases owed

/-- A delivery that has been opened is started. -/
theorem started (h : Posted calm past w (before ++ .owing d :: after)) (mail : w'.mail = w.mail)
    (logs : w'.Logs) (posted : w'.posted = w.posted ++ [d]) (still : calm → w'.IsCalm)
    (told : w.crashes ≤ w'.crashes) : Posted calm past w' (before ++ .idle :: after) := by
  have bears := (forall_mem_middle.mp h.bears).1
  refine h.onward logs still ?_ ?_ ?_ ?_ trivial ?_ told
  · rw [mail]
    exact fun _ => id
  · rw [mail]
    exact fun _ => .inl
  · intro x hx
    rw [posted] at hx
    rcases List.mem_append.mp hx with hx | hx
    · exact .inl hx
    · obtain rfl := List.mem_singleton.mp hx
      rw [mail]
      exact .inr bears
  · intro x hx
    rw [posted]
    exact List.mem_append_left _ hx
  · intro l _ _ owed
    rw [posted, List.map_append]
    exact .inl (List.mem_append_right _ (by simp [Option.some.inj owed]))

theorem ids_modify (ls : List DeliveryLine) :
    (Keyed.modify DeliveryLine.id d.id (fun _ => d.line) ls).map DeliveryLine.id
      = ls.map DeliveryLine.id :=
  map_modify_kept fun _ _ same => same.symm

/-- A delivery that is borne is shown, and borne on. -/
theorem shown (h : Posted calm past w (before ++ p :: after)) (owed : p.owes? = some d.id)
    (on : w.LogsOn w' w.mail ∨
      w.LogsOn w' (Keyed.modify DeliveryLine.id d.id (fun _ => d.line) w.mail))
    (still : calm → w'.IsCalm) (line : d.line.isOpen = true ∨ d.line.isClosed = true)
    (bears : q.Bears calm (w.mail.map DeliveryLine.id)) (owes : q.owes? = some d.id)
    (told : w.crashes + q.dropped?.toList.length ≤ w'.crashes) :
    Posted calm past w' (before ++ q :: after) := by
  have logs : w'.Logs := on.elim (·.logs) (·.logs)
  have posted : w'.posted = w.posted := on.elim (·.posted) (·.posted)
  have ids : w'.mail.map DeliveryLine.id = w.mail.map DeliveryLine.id := by
    rcases on with on | on
    · rw [on.mail]
    · rw [on.mail, ids_modify]
  refine h.onward logs still ?_ ?_ ?_ ?_ ?_ ?_ told
  · rw [ids]
    exact fun _ => id
  · intro l hl
    rcases on with on | on
    · rw [on.mail] at hl
      exact .inl hl
    · rw [on.mail] at hl
      rcases Keyed.mem_modify hl with rfl | ⟨hl, _⟩
      · exact .inr ⟨line, fun _ => owes⟩
      · exact .inl hl
  · rw [posted]
    exact fun _ => .inl
  · rw [posted]
    exact fun _ => id
  · rwa [ids]
  · intro l _ _ owes'
    exact .inr (owes.trans (owed.symm.trans owes'))

/-- A delivery whose end is saved needs nobody any more. -/
theorem closedUp (h : Posted calm past w (before ++ .closing d :: after))
    (on : w.LogsOn w' (Keyed.modify DeliveryLine.id d.id (fun _ => d.line) w.mail))
    (still : calm → w'.IsCalm) (told : w.crashes ≤ w'.crashes) :
    Posted calm past w' (before ++ .closed :: after) := by
  have closed : d.line.isClosed = true := (forall_mem_middle.mp h.bears).1.2
  have unlike {l : DeliveryLine} (going : l.isOpen = true) : l ≠ d.line := by
    rintro rfl
    rw [DeliveryLine.isClosed_of_isOpen going] at closed
    cases closed
  refine h.onward on.logs still ?_ ?_ ?_ ?_ trivial ?_ told
  · rw [on.mail, ids_modify]
    exact fun _ => id
  · intro l hl
    rw [on.mail] at hl
    rcases Keyed.mem_modify hl with rfl | ⟨hl, _⟩
    · exact .inr ⟨.inr closed, fun going => absurd rfl (unlike going)⟩
    · exact .inl hl
  · rw [on.posted]
    exact fun _ => .inl
  · rw [on.posted]
    exact fun _ => id
  · intro l hl going owed
    rw [on.mail] at hl
    rcases Keyed.mem_modify hl with rfl | ⟨_, other⟩
    · exact absurd rfl (unlike going)
    · exact absurd (Option.some.inj owed).symm other

/-- Work that was waiting begins. -/
theorem begun {works later : List Background} {work : Background}
    (h : Posted calm past w ps) (queued : w.queue = works ++ work :: later) :
    Posted calm past { w with queue := works ++ later } (ps ++ [Posting.begins work]) where
  logs := h.logs.of_queue _
  still c := ⟨(h.still c).client, (h.still c).spared, (h.still c).ordinary⟩
  told := h.told
  waiting d hd := h.waiting d ((World.mem_posted_iff queued).mpr (.inl hd))
  bears p hp := by
    rcases List.mem_append.mp hp with hp | hp
    · exact h.bears p hp
    · obtain rfl := List.mem_singleton.mp hp
      cases work with
      | run q => trivial
      | delivery job =>
          have there := (World.mem_posted_iff queued).mpr (.inr rfl)
          obtain ⟨borne, going⟩ := h.waiting job.delivery there
          exact ⟨⟨borne.logged, fun _ => borne.fits trivial⟩, going⟩
  answered l hl going := by
    rcases h.answered l hl going with waits | ⟨p, hp, owes⟩
    · obtain ⟨d, hd, same⟩ := List.mem_map.mp waits
      rcases (World.mem_posted_iff queued).mp hd with hd | begins
      · exact .inl (same ▸ List.mem_map_of_mem hd)
      · refine .inr ⟨Posting.begins work, by simp, ?_⟩
        cases work with
        | run q => cases begins
        | delivery job =>
            obtain rfl := Option.some.inj begins
            exact congrArg some same
    · exact .inr ⟨p, List.mem_append_left _ hp, owes⟩
  crashes := by
    have idle : [Posting.begins work].filterMap Burden.dropped? = [] := by
      cases work <;> rfl
    rw [List.filterMap_append, idle, List.append_nil]
    exact h.crashes

end Posted

/-! ## What an answer does -/

/-- What may happen to a world besides: nothing to the log of deliveries and to those that wait,
and the engine forgets no crash. -/
structure World.AmidMail (w w' : World) : Prop where
  mail : w.SameMail w'
  crashes : w.crashes ≤ w'.crashes

/-- What may happen to a world besides that makes no delivery crash. -/
structure World.AmidCalm (w w' : World) : Prop where
  amid : w.AmidMail w'
  calm : w.IsCalm → w'.IsCalm

namespace Posted

variable {calm : Prop} {past : Nat} {w : World} {before after ps : List Burden} {p : Burden}
  {r : Request}

theorem ok_of_sure (w : World) (certain : Posting.sure r = true) :
    ∃ a, (w.answer r).1 = .ok a := by
  cases r with
  | now | log | start | publishDelivery | endExchange | pause | giveWay => exact ⟨_, rfl⟩
  | _ => cases certain

theorem legible (h : Posted calm past w ps) : ∀ l ∈ w.mail, l.IsLegible := by
  intro l hl
  rcases h.told l hl with going | closed
  · exact DeliveryLine.isLegible_of_isOpen going
  · exact DeliveryLine.isLegible_of_isClosed closed

/-- In calm, what a delivery asks for does not fail. -/
theorem ok_of_assured (h : Posted calm past w (before ++ p :: after))
    (allowed : Posting.may calm p r) (still : calm) (assured : Posting.assured r = true) :
    ∃ a, (w.answer r).1 = .ok a := by
  have bears := (forall_mem_middle.mp h.bears).1
  have calmly := h.still still
  cases r with
  | saveDelivery d =>
      have saved (fits : d.Fits) (line : d.line.IsLegible) :
          ∃ a, (w.answer (.saveDelivery d)).1 = .ok a :=
        ⟨d, World.saveDelivery_ok calmly.spared fits line h.legible⟩
      cases p with
      | carrying d' =>
          rcases allowed with no | same | ⟨d'', no, _⟩
          · cases no
          · obtain rfl := Request.saveDelivery.inj same
            exact saved (bears.1.fits still) (DeliveryLine.isLegible_of_isOpen bears.2)
          · cases no
      | closing d' =>
          rcases allowed with no | same
          · cases no
          · obtain rfl := Request.saveDelivery.inj same
            exact saved (bears.1.fits still) (DeliveryLine.isLegible_of_isClosed bears.2)
      | idle =>
          rcases allowed with no | ⟨d', no, _⟩ <;> cases no
      | owing d' =>
          obtain ⟨job, no, _⟩ := allowed
          cases no
      | closed => cases allowed
      | dropped id => cases allowed
  | beginExchange d headers content =>
      refine ⟨(), ?_⟩
      simp [World.answer, World.isAddressed, World.unreachable?, calmly.client, Request.site?,
        World.perform]
  | _ => cases assured

/-- Every answer is one to reckon with. -/
theorem expected (h : Posted calm past w (before ++ p :: after))
    (allowed : Posting.may calm p r) : Posting.expects calm r (w.answer r).1 := by
  cases answered : (w.answer r).1 with
  | error f =>
      refine ⟨?_, fun still => ?_⟩ <;> rw [← Bool.not_eq_true]
      · intro certain
        obtain ⟨a, ok⟩ := ok_of_sure w certain
        cases answered.symm.trans ok
      · intro assured
        obtain ⟨a, ok⟩ := h.ok_of_assured allowed still assured
        cases answered.symm.trans ok
  | ok a =>
      cases r with
      | endExchange url =>
          intro still
          obtain rfl := Except.ok.inj answered
          exact (World.mem_nextExchange (h.still still).ordinary rfl).1
      | _ => trivial

theorem crashes_log {entry : LogEntry} (crash : entry.isCrash = true) :
    w.crashes + 1 ≤ (w.answer (.log entry)).2.crashes := by
  rw [World.answer_log, World.crashes, World.crashes, List.countP_append]
  simp [crash]

/-- What leaves the log of deliveries alone may tell of a crash, and then drops what is borne. -/
theorem answer_amid (h : Posted calm past w (before ++ p :: after)) (plain : r.isPostal = false)
    (borne : ∃ d, p = .carrying d ∨ p = .closing d) :
    Posted calm past (w.answer r).2 (before ++ Posting.next p r (w.answer r).1 :: after) := by
  have still (c : calm) : (w.answer r).2.IsCalm := (h.still c).answer r
  have same := w.sameMail_answer plain
  by_cases crash : ∃ entry, r = .log entry ∧ entry.isCrash = true
  · obtain ⟨entry, rfl, crash⟩ := crash
    obtain ⟨d, borne⟩ := borne
    have drops : Posting.next p (.log entry) (w.answer (.log entry)).1 = .dropped d.id := by
      rcases borne with rfl | rfl <;> exact if_pos crash
    have owes : p.owes? = some d.id := by
      rcases borne with rfl | rfl <;> rfl
    rw [drops]
    exact h.drop owes same still (crashes_log crash)
  · have quiet (entry : LogEntry) (log : r = .log entry) : entry.isCrash = false :=
      Bool.not_eq_true _ ▸ fun told => crash ⟨entry, log, told⟩
    rw [Posting.next_of_plain plain quiet]
    exact h.elsewhere same still (w.crashes_answer r)

/-- No answer breaks the invariant. -/
theorem answer (h : Posted calm past w (before ++ p :: after)) (allowed : Posting.may calm p r) :
    Posted calm past (w.answer r).2 (before ++ Posting.next p r (w.answer r).1 :: after) := by
  have still (c : calm) : (w.answer r).2.IsCalm := (h.still c).answer r
  have told := w.crashes_answer r
  have bears := (forall_mem_middle.mp h.bears).1
  cases p with
  | idle =>
      rcases allowed with plain | ⟨d, rfl, going, fits⟩
      · rw [Posting.next_idle plain]
        exact h.elsewhere (w.sameMail_answer plain) still told
      · rcases h.logs.openDelivery (DeliveryLine.isLegible_of_isOpen going) with
          ⟨f, failed, same⟩ | ⟨d', opened, ok, on⟩
        · rw [failed]
          exact h.elsewhere same still told
        · rw [ok]
          subst opened
          exact h.opened on still going ⟨fits.attempts, fits.responseStatus⟩ told
  | owing d =>
      obtain ⟨job, rfl, rfl⟩ := allowed
      exact h.started rfl (h.logs.of_queue _) (w.posted_start job) still told
  | carrying d =>
      rcases allowed with plain | rfl | ⟨d', rfl, id, line, fits⟩
      · exact h.answer_amid plain ⟨d, .inl rfl⟩
      · rcases h.logs.saveDelivery bears.1.logged (DeliveryLine.isLegible_of_isOpen bears.2) with
          ⟨f, _, same⟩ | ⟨_, on⟩
        · exact h.elsewhere same still told
        · exact h.shown rfl (.inr on) still (.inl bears.2) bears rfl told
      · have logged : d'.id ∈ w.mail.map DeliveryLine.id := id ▸ bears.1.logged
        have owed : (Burden.carrying d).owes? = some d'.id := congrArg some id.symm
        rcases line with going | closed
        · have onward : Posting.next (.carrying d) (.publishDelivery d')
              (w.answer (.publishDelivery d')).1 = .carrying d' := by
            simp [Posting.next, DeliveryLine.isClosed_of_isOpen going]
          rw [onward]
          exact h.shown owed (h.logs.publishDelivery logged) still (.inl going)
            ⟨⟨logged, fits⟩, going⟩ rfl told
        · have onward : Posting.next (.carrying d) (.publishDelivery d')
              (w.answer (.publishDelivery d')).1 = .closing d' := by
            simp [Posting.next, closed]
          rw [onward]
          exact h.shown owed (h.logs.publishDelivery logged) still (.inr closed)
            ⟨⟨logged, fits⟩, closed⟩ rfl told
  | closing d =>
      rcases allowed with plain | rfl
      · exact h.answer_amid plain ⟨d, .inr rfl⟩
      · rcases h.logs.saveDelivery bears.1.logged (DeliveryLine.isLegible_of_isClosed bears.2) with
          ⟨f, failed, same⟩ | ⟨ok, on⟩
        · rw [failed]
          exact h.elsewhere same still told
        · rw [ok]
          exact h.closedUp on still told
  | closed =>
      have idle : Posting.next .closed r (w.answer r).1 = .closed := rfl
      rw [idle]
      exact h.elsewhere (w.sameMail_answer allowed) still told
  | dropped id => cases allowed

end Posted

/-- Every piece of work attends to the deliveries it has, whatever else happens. -/
theorem attends_posting (settings : Settings) (calm : Prop) (paces : calm → settings.Paces)
    (past : Nat) {outside : World → World → Prop}
    (amid : ∀ w w', outside w w' → w.AmidMail w' ∧ (calm → w.IsCalm → w'.IsCalm)) :
    System.Attends (posting calm) (Burden.ends calm) Burden.suits settings outside
      (Posted calm past) where
  answered w before p after r posted allowed :=
    ⟨posted.expected allowed, posted.answer allowed⟩
  suited p r x work _ suits := (Posting.isSender_next p r x).trans suits
  begun w ps before work after posted queued := by
    refine ⟨Posting.begins work, Posting.suits_begins work, Posting.leads_work paces work ?_,
      posted.begun queued⟩
    intro d begins
    obtain ⟨borne, going⟩ := posted.waiting d ((World.mem_posted_iff queued).mpr (.inr begins))
    exact ⟨going, borne.fits trivial⟩
  changed w w' ps allowed posted := by
    obtain ⟨⟨same, crashes⟩, still⟩ := amid w w' allowed
    exact posted.elsewhere same (fun c => still c (posted.still c)) crashes

/-! ## Errands -/

/-- What the engine is called for: a dispatch, a run by hand, an action by itself, or a delivery. -/
inductive Errand where
  | call (call : Call)
  | act (site : Runner.Site) (action : Action)
  | submit (url method : String) (actionId : Uid) (workflowId : Option Uid)
      (executionId : Option RecordId) (headers : List (String × String)) (content : String)

namespace Errand

/-- The program of an errand. -/
def program (settings : Settings) : Errand → Prog Unit
  | call c => (fun _ => ()) <$> c.program settings
  | act site action => (fun _ => ()) <$> Runner.execute site action
  | submit url method actionId workflowId executionId headers content =>
    (fun _ => ()) <$> Runner.submit
      { url, method, actionId, workflowId, executionId, createdAt := default } headers content

theorem posts (calm : Prop) (settings : Settings) (errand : Errand) :
    Posting.Posts calm (errand.program settings) := by
  cases errand with
  | call c => exact Posting.posts_map _ (Posting.posts_call settings c)
  | act site action => exact Posting.posts_map _ (Posting.posts_execute site action)
  | submit => exact Posting.posts_map _ (Posting.posts_submit _ _ rfl ⟨rfl, rfl⟩)

end Errand

/-! ## Where no delivery is left to be made -/

/-- Whether a delivery has been opened and is now to be started. -/
def Prog.isSending {α : Type} : Prog α → Bool
  | .call (.start (.delivery _)) _ => true
  | _ => false

namespace System

/-- No delivery is left to be made: none waits, those under way are over, and no submission stands
between the log and the start. -/
structure IsDrained (s : System Unit) : Prop where
  waiting : s.world.posted = []
  deliveries : ∀ t ∈ s.tasks, t.work.isRun = false → t.left.isOver = true
  calls : ∀ c ∈ s.calls, c.isSending = false
  runs : ∀ t ∈ s.tasks, t.left.isSending = false

/-- Errands are about to begin, over a log of deliveries that have ended. -/
structure SetsOut (settings : Settings) (s : System Unit) : Prop where
  calls : ∀ c ∈ s.calls, ∃ errand : Errand, c = errand.program settings
  tasks : s.tasks = []
  logs : s.world.Logs
  waiting : s.world.posted = []
  closed : ∀ l ∈ s.world.mail, l.isClosed = true

variable {settings : Settings} {start s : System Unit} {calm : Prop}
  {outside : World → World → Prop}

theorem posted_of_setsOut (sets : start.SetsOut settings) (still : calm → start.world.IsCalm) :
    Attended (posting calm) (Burden.ends calm) Burden.suits
      (fun w ps => Posted calm start.world.crashes w ps ∧
        Fronted (·.isSender = true) start.calls.length ps) start := by
  refine Attended.of_start .idle ?_ sets.tasks ⟨?_, ?_⟩
  · intro c hc
    obtain ⟨errand, rfl⟩ := sets.calls c hc
    refine (errand.posts calm settings).mono ?_
    rintro x p rfl
    trivial
  · refine ⟨sets.logs, still, fun l hl => .inr (sets.closed l hl), ?_, ?_, ?_, ?_⟩
    · rw [sets.waiting]
      exact fun d hd => nomatch hd
    · intro p hp
      obtain rfl := List.eq_of_mem_replicate hp
      trivial
    · intro l hl going
      have closed := sets.closed l hl
      rw [DeliveryLine.isClosed_of_isOpen going] at closed
      cases closed
    · rw [List.filterMap_replicate_of_none rfl]
      exact Nat.le_refl _
  · refine ⟨by simp, ?_⟩
    intro p hp
    obtain rfl := List.eq_of_mem_replicate (List.mem_of_mem_take hp)
    rfl

theorem posted_of_reachable (sets : start.SetsOut settings) (calm : Prop)
    (paces : calm → settings.Paces) (still : calm → start.world.IsCalm)
    (amid : ∀ w w', outside w w' → w.AmidMail w' ∧ (calm → w.IsCalm → w'.IsCalm))
    (reachable : Reachable settings outside start s) :
    Attended (posting calm) (Burden.ends calm) Burden.suits
      (fun w ps => Posted calm start.world.crashes w ps ∧
        Fronted (·.isSender = true) s.calls.length ps) s := by
  rw [reachable.calls_length]
  have kept (p : Burden) (r : Request) (x : Except Failure r.Answer)
      (_ : (posting calm).may p r) (sender : p.isSender = true) :
      ((posting calm).next p r x).isSender = true :=
    (Posting.isSender_next p r x).trans sender
  have attends := attends_posting settings calm paces start.world.crashes amid
  exact Attended.of_reachable (attends.fronted kept _) reachable (posted_of_setsOut sets still)

/-- What is not about to send a delivery owes none. -/
theorem owes_nothing {α : Type} {m : Prog α} {p : Burden} (sender : p.isSender = true)
    (keeps : m.Leads (posting calm) (fun _ => Burden.ends calm) p) (quiet : m.isSending = false) :
    p.owes? = none := by
  cases p with
  | idle => rfl
  | owing d =>
      cases m with
      | done a => exact absurd keeps id
      | fail f => exact absurd keeps id
      | call r rest =>
          obtain ⟨job, rfl, _⟩ := keeps.1
          cases quiet
  | _ => cases sender

/-- Where no delivery is left to be made, an open line is of one that was dropped. -/
theorem dropped_of_isOpen (drained : s.IsDrained)
    (attended : Attended (posting calm) (Burden.ends calm) Burden.suits
      (fun w ps => Posted calm start.world.crashes w ps ∧
        Fronted (·.isSender = true) s.calls.length ps) s) :
    ∃ ps, Posted calm start.world.crashes s.world ps ∧
      ∀ l ∈ s.world.mail, l.isOpen = true → ¬ calm ∧ l.id ∈ ps.filterMap Burden.dropped? := by
  obtain ⟨calls, tasks, hcalls, htasks, keepCalls, keepTasks, posted, fronted⟩ := attended
  refine ⟨_, posted, ?_⟩
  intro l hl going
  rcases posted.answered l hl going with waits | ⟨p, hp, owes⟩
  · rw [drained.waiting] at waits
    cases waits
  · rcases List.mem_append.mp hp with call | task
    · obtain ⟨⟨p, c⟩, hc, rfl⟩ := List.mem_map.mp call
      rw [hcalls, List.length_map, ← List.length_map (f := Prod.fst)] at fronted
      have quiet := drained.calls c (hcalls ▸ List.mem_map_of_mem hc)
      rw [owes_nothing (fronted.forall_mem p call) (keepCalls _ hc) quiet] at owes
      cases owes
    · obtain ⟨⟨p, t⟩, ht, rfl⟩ := List.mem_map.mp task
      obtain ⟨keeps, suits⟩ := keepTasks _ ht
      have there : t ∈ s.tasks := htasks ▸ List.mem_map_of_mem ht
      cases work : t.work.isRun with
      | true =>
          have quiet := drained.runs t there
          rw [owes_nothing (suits.trans work) keeps quiet] at owes
          cases owes
      | false =>
          have ended := keeps.ends (drained.deliveries t there work)
          cases p with
          | dropped id => exact ⟨ended, List.mem_filterMap.mpr ⟨_, hp, owes⟩⟩
          | idle | closed => cases owes
          | _ => cases ended

/-- However calls, runs and deliveries interleave: the log has one line for each delivery that was
submitted.  Where no delivery is left to be made, each line is open or closed, and there are no
more open ones than crashes that the engine has told of since the start.  And if nothing makes a
delivery crash, neither in the world nor in the settings, every line is closed. -/
theorem deliveries_end (sets : start.SetsOut settings)
    (reachable : Reachable settings World.AmidMail start s) :
    s.world.saved.map Delivery.id = s.world.mail.map DeliveryLine.id ∧
      (s.world.mail.map DeliveryLine.id).Nodup ∧
      (s.IsDrained →
        (∀ l ∈ s.world.mail, l.isOpen = true ∨ l.isClosed = true) ∧
          start.world.crashes + s.world.mail.countP DeliveryLine.isOpen ≤ s.world.crashes) ∧
      (Reachable settings World.AmidCalm start s →
        start.world.IsCalm → settings.Paces → s.IsDrained →
          ∀ l ∈ s.world.mail, l.isClosed = true) := by
  have attended := posted_of_reachable sets False nofun nofun
    (fun _ _ allowed => ⟨allowed, nofun⟩) reachable
  have logs : s.world.Logs := by
    obtain ⟨_, _, _, _, _, _, posted, _⟩ := attended
    exact posted.logs
  refine ⟨logs.saved, logs.once, ?_, ?_⟩
  · intro drained
    obtain ⟨ps, posted, dropped⟩ := dropped_of_isOpen drained attended
    have once : ((s.world.mail.filter DeliveryLine.isOpen).map DeliveryLine.id).Nodup :=
      logs.once.sublist (List.filter_sublist.map _)
    have within : (s.world.mail.filter DeliveryLine.isOpen).map DeliveryLine.id
        ⊆ ps.filterMap Burden.dropped? := by
      intro id there
      obtain ⟨l, hl, rfl⟩ := List.mem_map.mp there
      obtain ⟨hl, going⟩ := List.mem_filter.mp hl
      exact (dropped l hl going).2
    have few := (List.subperm_of_subset once within).length_le
    rw [List.length_map, ← List.countP_eq_length_filter] at few
    exact ⟨posted.told, Nat.le_trans (Nat.add_le_add_left few _) posted.crashes⟩
  · intro calmly still paces drained l hl
    have attended := posted_of_reachable sets True (fun _ => paces) (fun _ => still)
      (fun _ _ allowed => ⟨allowed.amid, fun _ => allowed.calm⟩) calmly
    obtain ⟨ps, posted, dropped⟩ := dropped_of_isOpen drained attended
    rcases posted.told l hl with going | closed
    · exact absurd trivial (dropped l hl going).1
    · exact closed

/-- A deal is to be told of at an address. -/
def hook : Errand := .submit "https://h/x" "POST" ⟨1⟩ none none [] "[]"

/-- The delivery that is made of it. -/
def hookJob : QueuedDelivery where
  delivery := {
    id := .issued 1
    url := "https://h/x"
    method := "POST"
    actionId := ⟨1⟩
    createdAt := { civil := 0 } }
  headers := []
  content := "[]"

/-- The deal is to be told of over a client that makes of it what it makes. -/
def hooked (script : List (String × List Exchange)) : System Unit where
  world := { script }
  calls := [hook.program {}]
  tasks := []

theorem hooked_setsOut (script : List (String × List Exchange)) : (hooked script).SetsOut {} where
  calls c hc := by
    obtain rfl := List.mem_singleton.mp hc
    exact ⟨hook, rfl⟩
  tasks := rfl
  logs := {
    shared := by
      intro ds same d hd
      obtain rfl := Sum.inl.inj same
      cases hd
    numbered := rfl
    saved := rfl }
  waiting := rfl
  closed l hl := nomatch hl

/-- The world in which the delivery begins. -/
def hookBegun (script : List (String × List Exchange)) : World :=
  { ((hook.program {}).run { script }).2 with queue := [] }

theorem isSending_ofExcept {α : Type} (x : Except Failure α) :
    (Prog.ofExcept x).isSending = false := by
  cases x <;> rfl

/-- The delivery is submitted and made. -/
theorem hooked_reaches (script : List (String × List Exchange)) {w : World}
    (made : ((Deliver.background {} hookJob).run (hookBegun script)).2 = w)
    (free : (Deliver.background {} hookJob).isFree (hookBegun script) = true)
    (still : w.posted = []) (outside : World → World → Prop) :
    ∃ s, Reachable {} outside (hooked script) s ∧ s.IsDrained ∧ s.world = w := by
  have waiting : Reachable {} outside (hooked script) (hooked script) := .refl
  have submitted := waiting.runCall [] [] rfl
  have begun := submitted.step (.begin _ _ _ [] [] (.delivery hookJob) rfl)
  have ended := begun.runTask [] [] free
  subst made
  refine ⟨_, ended, ⟨still, ?_, ?_, ?_⟩, rfl⟩
  · intro t ht _
    obtain rfl := List.mem_singleton.mp ht
    exact Prog.isOver_ofExcept _
  · intro c hc
    obtain rfl := List.mem_singleton.mp hc
    exact isSending_ofExcept _
  · intro t ht
    obtain rfl := List.mem_singleton.mp ht
    exact isSending_ofExcept _

/-- A client that crashes. -/
def crashing : List (String × List Exchange) := [("https://h/x", [.crashed "RuntimeError" "crash"])]

theorem isCalm_of_script_nil : ({ script := [] } : World).IsCalm where
  client := rfl
  spared := List.not_mem_nil
  ordinary _ there := nomatch there

theorem paces_default : ({} : Settings).Paces where
  paused attempt first last := by
    refine ⟨_, if_pos ?_⟩
    have : (attempt : Int) ≤ 2 := last
    omega
  counted := by decide

/-- Over a client that crashes the line of the delivery stays open; over a calm one it is closed. -/
theorem hooked_ended :
    (∃ s, Reachable {} World.AmidMail (hooked crashing) s ∧ s.IsDrained ∧
      s.world.mail.countP DeliveryLine.isOpen = 1 ∧ 1 ≤ s.world.crashes) ∧
    ∃ s, Reachable {} World.AmidCalm (hooked []) s ∧
      s.IsDrained ∧ s.world.mail.length = 1 ∧ ∀ l ∈ s.world.mail, l.isClosed = true := by
  constructor
  · obtain ⟨s, reachable, drained, world⟩ :=
      hooked_reaches crashing rfl (by decide) (by decide) World.AmidMail
    have opened : s.world.mail.countP DeliveryLine.isOpen = 1 := by
      rw [world]
      decide
    refine ⟨s, reachable, drained, opened, ?_⟩
    have few := ((deliveries_end (hooked_setsOut crashing) reachable).2.2.1 drained).2
    rw [opened] at few
    exact few
  · obtain ⟨s, reachable, drained, world⟩ := hooked_reaches [] rfl (by decide)
      (by decide) World.AmidCalm
    have amid := reachable.mono fun _ _ => World.AmidCalm.amid
    refine ⟨s, reachable, drained, ?_, ?_⟩
    · rw [world]
      decide
    · exact (deliveries_end (hooked_setsOut []) amid).2.2.2 reachable isCalm_of_script_nil
        paces_default drained

end System

end RecordFlow
