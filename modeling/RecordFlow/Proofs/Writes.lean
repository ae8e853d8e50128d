/-
# Writes — what a run does to the records of the registry

A run works on the record of its context, and on no other: the records and the
tags of all others are as they were, in every adapter.  The record itself is
what it was with the fields written over it that the outcomes of the run tell
of, in their order: those of the field writes that succeeded, and the owner
where an assignment came to one.

Told is this of a run by itself, whatever it comes to and whatever fails on
its way.  What goes on beside a run may write to the same record.
-/
import RecordFlow.Proofs.Closing

namespace RecordFlow

/-! ## Records over which is written -/

/-- Fields with several of them written, one after the other. -/
def Fields.overwrite (fs : Fields) (writes : List (String × Value)) : Fields :=
  writes.foldl (fun fs w => fs.set w.1 w.2) fs

namespace Adapter

/-- What of an adapter no write changes. -/
def layout (a : Adapter) : String × Bool × String × List String :=
  (a.entityType, a.taggable, a.ownerField, a.records.map Prod.fst)

/-- An adapter after one of its records was written over; its tags may have been changed. -/
structure Overwritten (id : String) (writes : List (String × Value)) (a a' : Adapter) : Prop where
  layout : a'.layout = a.layout
  others : ∀ other ≠ id, a'.record? other = a.record? other ∧ a'.tagsOf other = a.tagsOf other
  own : a'.record? id = (a.record? id).map (Fields.overwrite · writes)

variable {a a' : Adapter} {id : String}

theorem overwritten_of_updateField {field : String} {value : Value}
    (h : a.updateField id field value = .ok a') : a.Overwritten id [(field, value)] a' := by
  unfold updateField at h
  split at h
  · cases h
  · obtain rfl := Except.ok.inj h
    refine ⟨?_, fun other apart => ⟨?_, rfl⟩, ?_⟩
    · have ids : (Keyed.modify Prod.fst id (fun r => (r.1, Fields.set r.2 field value))
          a.records).map Prod.fst = a.records.map Prod.fst := map_modify_kept fun _ _ _ => rfl
      exact congrArg (fun ids => (a.entityType, a.taggable, a.ownerField, ids)) ids
    · exact (Keyed.lookup_modify id other (fun fs => Fields.set fs field value) _).trans
        (if_neg apart)
    · exact (Keyed.lookup_modify id id (fun fs => Fields.set fs field value) _).trans (if_pos rfl)

theorem Overwritten.refl : a.Overwritten id [] a :=
  ⟨rfl, fun _ _ => ⟨rfl, rfl⟩, Option.map_id'.symm⟩

theorem overwritten_of_withTags (tags : List String) :
    a.Overwritten id [] (a.withTags id tags) := by
  refine ⟨rfl, fun other apart => ⟨rfl, ?_⟩, Option.map_id'.symm⟩
  rw [tagsOf, withTags, Keyed.lookup_put, if_neg apart, tagsOf]

theorem overwritten_of_connectTag (tag : String) :
    a.Overwritten id [] (a.connectTag id tag) := by
  unfold connectTag
  split
  · exact .refl
  · exact overwritten_of_withTags _

theorem overwritten_of_disconnectTag (tag : String) :
    a.Overwritten id [] (a.disconnectTag id tag) := by
  unfold disconnectTag
  split
  · exact overwritten_of_withTags _
  · exact .refl

end Adapter

namespace Registry

/-- The fields of a record of a kind. -/
def record? (r : Registry) (entityType id : String) : Option Fields :=
  (r.adapter? entityType).bind (·.record? id)

/-- The tags of a record of a kind. -/
def tagsOf (r : Registry) (entityType id : String) : List String :=
  ((r.adapter? entityType).map (·.tagsOf id)).getD []

/-- A registry after one record was written over.  It has the adapters that it had, for the
records that they had; the fields and the tags of all other records are the same; and the record
has the fields that it had with the writes made over them. -/
structure Overwritten (entityType id : String) (writes : List (String × Value))
    (r r' : Registry) : Prop where
  layout : r'.map Adapter.layout = r.map Adapter.layout
  others : ∀ entityType' id', (entityType', id') ≠ (entityType, id) →
    r'.record? entityType' id' = r.record? entityType' id' ∧
      r'.tagsOf entityType' id' = r.tagsOf entityType' id'
  own : r'.record? entityType id = (r.record? entityType id).map (Fields.overwrite · writes)

namespace Overwritten

variable {entityType id : String} {writes more : List (String × Value)} {r r' r'' : Registry}

theorem refl : r.Overwritten entityType id [] r :=
  ⟨rfl, fun _ _ _ => ⟨rfl, rfl⟩, Option.map_id'.symm⟩

theorem trans (h : r.Overwritten entityType id writes r')
    (h' : r'.Overwritten entityType id more r'') :
    r.Overwritten entityType id (writes ++ more) r'' where
  layout := h'.layout.trans h.layout
  others t' id' apart :=
    ⟨(h'.others t' id' apart).1.trans (h.others t' id' apart).1,
      (h'.others t' id' apart).2.trans (h.others t' id' apart).2⟩
  own := by
    rw [h'.own, h.own, Option.map_map]
    refine congrArg (Option.map · _) (funext fun fs => ?_)
    exact (List.foldl_append ..).symm

/-- An adapter of the registry is replaced by what becomes of it when a record is written over. -/
theorem register {a a' : Adapter} (found : r.adapter? entityType = some a)
    (h : a.Overwritten id writes a') : r.Overwritten entityType id writes (r.register a') := by
  have kind : a'.entityType = entityType := by
    rw [← (find?_mem found).2]
    exact congrArg Prod.fst h.layout
  have asked (t : String) :
      (r.register a').adapter? t = if entityType = t then some a' else r.adapter? t := by
    rw [r.adapter?_register, kind]
  refine ⟨Keyed.map_put_of_found (kind ▸ found) h.layout, fun t id' apart => ?_, ?_⟩
  · by_cases same : entityType = t
    · subst same
      have other : id' ≠ id := fun eq => apart (by rw [eq])
      simpa [record?, tagsOf, asked, found] using h.others id' other
    · simp [record?, tagsOf, asked, same]
  · simpa [record?, asked, found] using h.own

end Overwritten

end Registry

/-! ## Requests -/

/-- The record that a request would change, and what it would write over it. -/
def Request.patch? : Request → Option (String × String × List (String × Value))
  | updateField t id field value => some (t, id, [(field, value)])
  | connectTag t id _ | disconnectTag t id _ => some (t, id, [])
  | _ => none

/-- What has been written when that was to be written and the answer came. -/
def written {α : Type} (writes : List (String × Value)) :
    Except Failure α → List (String × Value)
  | .ok _ => writes
  | .error _ => []

namespace World

variable {w : World} {r : Request}

theorem storing_registry {α : Type} {answer : α} {after : Except Failure Unit × Store}
    {also : World → World} (h : ∀ v, (also v).registry = v.registry) :
    (w.storing answer after also).2.registry = w.registry :=
  storing_of_stored (P := fun v => v.registry = w.registry) rfl fun v same => (h v).trans same

theorem perform_registry (plain : r.patch? = none) : (w.perform r).2.registry = w.registry := by
  cases r with
  | updateField | connectTag | disconnectTag => cases plain
  | recordRun id time =>
      simp only [perform, countRun]
      split <;> rfl
  | openExecution | createExecution | finishExecution => exact storing_registry fun _ => rfl
  | openDelivery | saveDelivery | fileDelivery =>
      exact storing_registry fun v =>
        noteSaved_of_noted (P := fun v' => v'.registry = v.registry) rfl rfl
  | advanceRotation id size =>
      exact advanceRotation_of_turned (P := fun v => v.registry = w.registry) rfl
        (fun _ _ _ => rfl) fun _ _ _ same => same
  | claim k =>
      simp only [perform]
      split <;> rfl
  | _ => rfl

/-- What changes no record leaves the registry as it is. -/
theorem answer_registry (plain : r.patch? = none) : (w.answer r).2.registry = w.registry :=
  answer_of_perform (P := fun v => v.registry = w.registry) (fun _ => rfl) fun faults =>
    perform_registry (w := { w with faults }) plain

theorem patching_registry {t id : String} {writes : List (String × Value)}
    {f : Adapter → Except Failure Adapter}
    (changes : ∀ a a', f a = .ok a' → a.Overwritten id writes a') :
    w.registry.Overwritten t id (written writes (w.patching t f).1)
      (w.patching t f).2.registry := by
  unfold patching
  cases reached : w.registry.adapter t >>= f with
  | error e => exact .refl
  | ok a' =>
      obtain ⟨a, found, changed⟩ := ok_of_bind_ok reached
      have there : w.registry.adapter? t = some a := by
        unfold Registry.adapter at found
        split at found
        · rename_i there
          exact there.trans (congrArg some (Except.ok.inj found))
        · cases found
      exact .register there (changes a a' changed)

/-- A request that would change a record changes it just when it is answered without a failure. -/
theorem answer_patch {t id : String} {writes : List (String × Value)}
    (patch : r.patch? = some (t, id, writes)) :
    w.registry.Overwritten t id (written writes (w.answer r).1) (w.answer r).2.registry := by
  rcases w.answer_cases r with ⟨no, h⟩ | ⟨e, faults, h⟩ | ⟨faults, h⟩
  · cases r <;> first | cases no | cases patch
  · rw [h]
    exact .refl
  · rw [h]
    cases r with
    | updateField t id field value =>
        obtain ⟨⟩ := patch
        exact patching_registry (w := { w with faults }) (t := t)
          (f := (·.updateField id field value)) fun _ _ => Adapter.overwritten_of_updateField
    | connectTag t id tag =>
        obtain ⟨⟩ := patch
        refine patching_registry (w := { w with faults }) (t := t)
          (f := fun a => .ok (a.connectTag id tag)) fun a a' h => ?_
        exact Except.ok.inj h ▸ Adapter.overwritten_of_connectTag tag
    | disconnectTag t id tag =>
        obtain ⟨⟩ := patch
        refine patching_registry (w := { w with faults }) (t := t)
          (f := fun a => .ok (a.disconnectTag id tag)) fun a a' h => ?_
        exact Except.ok.inj h ▸ Adapter.overwritten_of_disconnectTag tag
    | _ => cases patch

end World

/-! ## What an outcome tells of -/

/-- What an assignment has written that came to this. -/
def ownerWrite? (settings : Settings) (result : Value) : Option (String × Value) :=
  match result.field "ownerId" with
  | .text user => if user = "" then none else some (settings.ownerField, .text user)
  | _ => none

/-- What a successful action has written over its record: the field of a field write with its
value, the owner of an assignment that came to one. -/
def write? (settings : Settings) (a : Action) (o : ActionOutcome) : Option (String × Value) :=
  match o.status, a.kind with
  | .success, .known .updateField =>
    match ActionConfig.read .updateField a.config with
    | .ok (.field c) => some (c.field, c.value)
    | _ => none
  | .success, .known .assignOwner => ownerWrite? settings o.result
  | _, _ => none

/-- What actions with these outcomes have written over their record, in their order. -/
def writesOf (settings : Settings) (actions : List Action) (os : List ActionOutcome) :
    List (String × Value) :=
  (List.zip actions os).filterMap fun x => write? settings x.1 x.2

theorem writesOf_nil (settings : Settings) (actions : List Action) :
    writesOf settings actions [] = [] := by
  simp [writesOf]

theorem writesOf_cons (settings : Settings) (a : Action) (actions : List Action)
    (o : ActionOutcome) (os : List ActionOutcome) :
    writesOf settings (a :: actions) (o :: os)
      = (write? settings a o).toList ++ writesOf settings actions os := by
  cases told : write? settings a o <;> simp [writesOf, told]

/-! ## Actions -/

namespace Writing

open Prog (ask leads_bind leads_ask_bind leads_attempt leads_map leads_ofExcept only_bind only_ask
  only_pure only_ofExcept)

/-- The code of what works on one record: no other is changed.  A phase tells what has been
written so far. -/
def code (t id : String) : Conduct (List (String × Value)) where
  may _ r := ∀ p, r.patch? = some p → p.1 = t ∧ p.2.1 = id
  expects _ _ := True
  next ws r x := match r.patch? with
    | some p => ws ++ written p.2.2 x
    | none => ws

variable {α : Type} {t id : String} {ws : List (String × Value)}

/-- The registry is the old one with the writes of the phase made over the record. -/
theorem tied_answer {r₀ : Registry} (w : World) (ws : List (String × Value)) (r : Request)
    (tied : r₀.Overwritten t id ws w.registry) (may : (code t id).may ws r) :
    r₀.Overwritten t id ((code t id).next ws r (w.answer r).1) (w.answer r).2.registry := by
  cases patch : r.patch? with
  | none =>
      simp only [code, patch]
      rwa [World.answer_registry patch]
  | some p =>
      obtain ⟨t', id', writes⟩ := p
      obtain ⟨rfl, rfl⟩ : t' = t ∧ id' = id := may _ patch
      simp only [code, patch]
      exact tied.trans (World.answer_patch patch)

/-- A program adds to what has been written what its value tells of. -/
def Adds (ws : List (String × Value)) (told : α → Option (String × Value)) :
    Except Failure α → List (String × Value) → Prop
  | .ok a, ws' => ws' = ws ++ (told a).toList
  | .error _, ws' => ws' = ws

theorem adds_none (ws : List (String × Value)) (x : Except Failure α) :
    Adds ws (fun _ => none) x ws := by
  cases x with
  | ok a => exact (List.append_nil ws).symm
  | error e => rfl

/-- A request that writes nothing, and changes the tags of no other record. -/
def IsQuiet (t id : String) (r : Request) : Prop := ∀ p, r.patch? = some p → p = (t, id, [])

theorem isQuiet_of_plain {r : Request} (h : r.patch? = none) : IsQuiet t id r := by
  intro p patch
  rw [h] at patch
  cases patch

theorem isQuiet_of_isSeeking {r : Request} (h : r.isSeeking = true) : IsQuiet t id r := by
  refine isQuiet_of_plain ?_
  cases r <;> first | rfl | cases h

theorem leads_quiet {m : Prog α} (h : m.Only (IsQuiet t id)) :
    m.Leads (code t id) (Adds ws fun _ => none) ws := by
  refine h.leads (fun r quiet => ⟨fun p patch => ?_, fun x => ?_⟩) (adds_none ws)
  · rw [quiet p patch]
    exact ⟨rfl, rfl⟩
  · cases patch : r.patch? with
    | none => simp only [code, patch]
    | some p =>
        obtain rfl := quiet p patch
        simp only [code, patch]
        cases x <;> exact List.append_nil ws

/-- What has written nothing is followed by the rest. -/
theorem leads_quiet_bind {β : Type} {m : Prog α} {rest : α → Prog β}
    {told : β → Option (String × Value)}
    (h : m.Only (IsQuiet t id)) (goesOn : ∀ a, (rest a).Leads (code t id) (Adds ws told) ws) :
    (m >>= rest).Leads (code t id) (Adds ws told) ws := by
  refine leads_bind ((leads_quiet h).mono ?_)
  intro x ws' quiet
  cases x with
  | ok a =>
      obtain rfl : ws' = ws := quiet.trans (List.append_nil ws)
      exact goesOn a
  | error e => exact quiet

section

variable {site : Runner.Site}

/-- The code of what works on the record of a site. -/
abbrev codeOf (site : Runner.Site) : Conduct (List (String × Value)) :=
  code site.context.entityType site.context.entityId

theorem leads_write (field : String) (value : Value) (result : Value)
    (told : Value → Option (String × Value)) (same : told result = some (field, value)) :
    Prog.Leads (codeOf site) (Adds ws told) ws (do
      ask (.updateField site.context.entityType site.context.entityId field value)
      return result) := by
  refine leads_ask_bind ?_ (fun _ _ => List.append_nil ws) fun _ _ => ?_
  · rintro _ ⟨⟩
    exact ⟨rfl, rfl⟩
  · show ws ++ [(field, value)] = ws ++ (told result).toList
    rw [same]
    rfl

/-- What an assignment comes to tells of the owner that it has written. -/
theorem ownerWrite?_given (settings : Settings) (owner : Option String) :
    ownerWrite? settings (.record [("ownerId", Value.ofText? owner)])
      = (Assignment.given? owner).map fun user => (settings.ownerField, .text user) := by
  cases owner with
  | none => rfl
  | some user =>
      show (if user = "" then none else some _) = _
      by_cases empty : user = "" <;> simp [Assignment.given?, Option.filter, empty]

theorem leads_assignOwner (c : OwnerConfig) :
    (Runner.assignOwner site c).Leads (codeOf site) (Adds ws (ownerWrite? site.settings)) ws := by
  refine leads_quiet_bind
    ((Assignment.isSeeking_ownerFor c site.context).only.mono fun _ => isQuiet_of_isSeeking) ?_
  intro owner
  have told := ownerWrite?_given site.settings owner
  cases given : Assignment.given? owner with
  | none =>
      rw [given] at told
      simp only
      show _ = _ ++ (ownerWrite? _ _).toList
      rw [told]
      exact (List.append_nil ws).symm
  | some user =>
      rw [given] at told
      exact leads_write _ _ _ _ told

theorem isQuiet_tagging {r : Request} (h : r.patch? = some (t, id, [])) : IsQuiet t id r := by
  intro p patch
  exact Option.some.inj (patch.symm.trans h)

theorem only_addTag (c : TagConfig) :
    (Runner.addTag site c).Only (IsQuiet site.context.entityType site.context.entityId) := by
  have looks := (Runner.isReading_tagToChange site c).isSeeking.only
  refine only_bind (looks.mono fun _ => isQuiet_of_isSeeking) fun name => ?_
  cases name with
  | none => exact only_pure _
  | some name =>
      refine only_bind (only_ask (isQuiet_of_plain rfl)) fun tag => ?_
      exact only_bind (only_ask (isQuiet_tagging rfl)) fun _ => only_pure _

theorem only_removeTag (c : TagConfig) :
    (Runner.removeTag site c).Only (IsQuiet site.context.entityType site.context.entityId) := by
  have looks := (Runner.isReading_tagToChange site c).isSeeking.only
  refine only_bind (looks.mono fun _ => isQuiet_of_isSeeking) fun name => ?_
  cases name with
  | none => exact only_pure _
  | some name =>
      refine only_bind (only_ask (isQuiet_of_plain rfl)) fun tag => ?_
      cases tag with
      | none => exact only_pure _
      | some tag => exact only_bind (only_ask (isQuiet_tagging rfl)) fun _ => only_pure _

theorem only_sendWebhook (actionId : Uid) (c : WebhookConfig) :
    (Runner.sendWebhook site actionId c).Only (IsQuiet t id) := by
  refine only_bind (Runner.passes_requestContent site c).only fun _ => ?_
  refine only_bind ?_ fun _ => only_pure _
  refine only_bind (only_ask (isQuiet_of_plain rfl)) fun _ => ?_
  refine only_bind (only_ask (isQuiet_of_plain rfl)) fun _ => ?_
  exact only_bind (only_ask (isQuiet_of_plain rfl)) fun _ => only_pure _

open Accounting (outcomeOf mem_kinds_of_read)

/-- An action that succeeds has written what its outcome tells of. -/
theorem leads_succeed {action : Action} {kind : ActionKind} {m : Prog Value}
    {told : Value → Option (String × Value)} (h : m.Leads (codeOf site) (Adds ws told) ws)
    (same : ∀ v, write? site.settings action (outcomeOf action kind (.success, v)) = told v) :
    ((fun v => (OutcomeStatus.success, v)) <$> m).Leads (codeOf site)
      (Adds ws fun x => write? site.settings action (outcomeOf action kind x)) ws := by
  refine leads_map _ (h.mono ?_)
  intro x ws' adds
  cases x with
  | ok v =>
      show ws' = ws ++ Option.toList (write? _ _ _)
      rw [same v]
      exact adds
  | error e => exact adds

theorem leads_perform {action : Action} {kind : ActionKind} {config : ActionConfig}
    (known : action.kind = .known kind) (read : ActionConfig.read kind action.config = .ok config) :
    (Runner.perform site action kind config).Leads (codeOf site)
      (Adds ws fun x => write? site.settings action (outcomeOf action kind x)) ws := by
  have mem := mem_kinds_of_read read
  have quiet {m : Prog Value}
      (h : m.Only (IsQuiet site.context.entityType site.context.entityId))
      (none : ∀ v, write? site.settings action (outcomeOf action kind (.success, v)) = none) :
      ((fun v => (OutcomeStatus.success, v)) <$> m).Leads (codeOf site)
        (Adds ws fun x => write? site.settings action (outcomeOf action kind x)) ws :=
    leads_succeed (leads_quiet h) none
  have other (apart : kind ≠ .updateField ∧ kind ≠ .assignOwner) (v : Value) :
      write? site.settings action (outcomeOf action kind (.success, v)) = none := by
    simp only [write?, outcomeOf, known]
    cases kind <;> first | rfl | simp at apart
  cases config with
  | email c =>
      obtain rfl := List.mem_singleton.mp mem
      exact quiet (Runner.passes_sendEmail site c fun _ => isQuiet_of_plain rfl).only
        (other (by decide))
  | task c =>
      obtain rfl := List.mem_singleton.mp mem
      exact quiet (Runner.passes_createTask site c (isQuiet_of_plain rfl) fun _ =>
        isQuiet_of_plain rfl).only (other (by decide))
  | field c =>
      obtain rfl := List.mem_singleton.mp mem
      refine leads_succeed (leads_write _ _ _ (fun _ => some (c.field, c.value)) rfl) ?_
      intro v
      simp only [write?, outcomeOf, known, read]
  | webhook c =>
      obtain rfl := List.mem_singleton.mp mem
      exact quiet (only_sendWebhook action.id c) (other (by decide))
  | owner c =>
      obtain rfl := List.mem_singleton.mp mem
      refine leads_succeed (leads_assignOwner c) fun v => ?_
      simp only [write?, outcomeOf, known]
  | tag c =>
      simp only [Accounting.kinds, List.mem_cons, List.not_mem_nil, or_false] at mem
      rcases mem with rfl | rfl
      · exact quiet (only_addTag c) (other (by decide))
      · exact quiet (only_removeTag c) (other (by decide))
  | activity c =>
      obtain rfl := List.mem_singleton.mp mem
      exact quiet (Runner.passes_createActivity site c fun _ => isQuiet_of_plain rfl).only
        (other (by decide))
  | delay c => exact (List.append_nil ws).symm
  | branch c =>
      obtain rfl := List.mem_singleton.mp mem
      exact quiet (Runner.passes_decideBranch site c).only (other (by decide))

/-- What did not succeed has written nothing. -/
theorem leads_unsuccessful {action : Action} {o : ActionOutcome} (entry : LogEntry)
    (unsuccessful : o.status ≠ .success) :
    Prog.Leads (codeOf site) (Adds [] (write? site.settings action)) [] (do
      ask (.log entry)
      return o) := by
  refine leads_quiet_bind (only_ask (isQuiet_of_plain rfl)) fun _ => ?_
  have none : write? site.settings action o = none := by
    unfold write?
    split <;> first | rfl | contradiction
  show [] = [] ++ (write? site.settings action o).toList
  rw [none]
  rfl

/-- An action writes over the record of its site what its outcome tells of, and nothing where it
comes to no outcome. -/
theorem leads_execute (action : Action) :
    (Runner.execute site action).Leads (codeOf site)
      (Adds [] (write? site.settings action)) [] := by
  refine leads_quiet_bind (only_ask (isQuiet_of_plain rfl)) fun _ => ?_
  cases known : action.kind with
  | foreign word => exact leads_unsuccessful _ nofun
  | known kind =>
      refine leads_bind (leads_attempt (leads_bind (leads_ofExcept ?_)))
      cases read : ActionConfig.read kind action.config with
      | error f => exact leads_unsuccessful _ nofun
      | ok config =>
          refine (leads_perform known read).mono ?_
          intro x ws adds
          cases x with
          | error f =>
              obtain rfl : ws = [] := adds
              exact leads_unsuccessful _ nofun
          | ok x => exact adds

/-- What an action does to the registry. -/
theorem execute_writes {action : Action} {w w' : World} {x : Except Failure ActionOutcome}
    (came : (Runner.execute site action).run w = (x, w')) :
    ∃ ws, Adds [] (write? site.settings action) x ws ∧
      w.registry.Overwritten site.context.entityType site.context.entityId ws w'.registry := by
  have answered (v : World) (ws : List (String × Value)) (r : Request)
      (tied : w.registry.Overwritten site.context.entityType site.context.entityId ws v.registry)
      (may : (codeOf site).may ws r) :
      (codeOf site).expects r (v.answer r).1 ∧
        w.registry.Overwritten site.context.entityType site.context.entityId
          ((codeOf site).next ws r (v.answer r).1) (v.answer r).2.registry :=
    ⟨trivial, tied_answer v ws r tied may⟩
  have ended := Prog.Leads.run answered (leads_execute action) .refl
  rwa [came] at ended

end

end Writing

/-! ## The loop over the actions -/

namespace Run

open Prog (ask attempt run_bind_ok run_bind_error only_bind only_ask only_pure)
open Runner (CameTo Site)
open Accounting (entryOf)

/-- How the loop over actions leaves the world: there are outcomes of a first part of them, which
stand in the entry, and of which each is what its action came to; and what they tell of has been
written over the record. -/
theorem runActions_writes (site : Site) (actions : List Action) (e : Execution) (w : World) :
    ∃ p w' os, (runActions site actions e).run w = (.ok p, w') ∧
      List.Forall₂ (CameTo site) (actions.take os.length) os ∧
      (entryOf p).id = e.id ∧ (entryOf p).outcomes = e.outcomes ++ os ∧
      w.registry.Overwritten site.context.entityType site.context.entityId
        (writesOf site.settings actions os) w'.registry := by
  induction actions generalizing e w with
  | nil => exact ⟨_, w, [], rfl, .nil, rfl, (List.append_nil _).symm, .refl⟩
  | cons a actions ih =>
      cases came : (Runner.execute site a).run w with
      | mk x w₁ =>
          have tried : (attempt (Runner.execute site a)).run w = (.ok x, w₁) := by
            rw [Prog.run_attempt, came]
          obtain ⟨ws, adds, wrote⟩ := Writing.execute_writes came
          cases x with
          | error f =>
              obtain rfl : ws = [] := adds
              exact ⟨_, w₁, [], run_bind_ok tried, .nil, rfl, (List.append_nil _).symm, wrote⟩
          | ok o =>
              obtain rfl : ws = (write? site.settings a o).toList := adds
              have here : CameTo site a o := ⟨w, by rw [came]⟩
              by_cases failed : o.status = .failed
              · refine ⟨.stopped (e.append o) o.errorText?, w₁, [o], ?_, .cons here .nil, rfl, rfl,
                  ?_⟩
                · refine (run_bind_ok tried).trans ?_
                  simp [failed]
                · rw [writesOf_cons, writesOf_nil, List.append_nil]
                  exact wrote
              · obtain ⟨p, w', os, ran, each, id, outcomes, rest⟩ :=
                  ih (e.append o) (w₁.withStore (w₁.store.publishExecution (e.append o)))
                refine ⟨p, w', o :: os, ?_, .cons here each, id, ?_, ?_⟩
                · refine (run_bind_ok tried).trans ?_
                  simp only [failed, if_false]
                  refine (run_bind_ok (a := ()) ?_).trans ran
                  rw [Prog.run_ask, World.answer_publishExecution]
                · rw [outcomes, Execution.append, List.append_assoc]
                  rfl
                · rw [writesOf_cons]
                  exact wrote.trans rest

/-! ## The end of a run -/

/-- Whatever comes of the end of a run, its entry stands in memory with the outcomes that the
loop has left. -/
theorem conclude_holds {p : Progress} {w : World} (workflowId : Uid)
    (kept : Keeps (entryOf p).id w.store) :
    ∃ e, ((conclude workflowId p).run w).2.store.Holds e ∧ e.id = (entryOf p).id ∧
      e.outcomes = (entryOf p).outcomes := by
  obtain ⟨e, holds, id, outcomes, -⟩ := conclude_shut workflowId (.inl kept)
  exact ⟨e, holds, id, outcomes⟩

/-- The end of a run that comes to a value comes to the entry with the outcomes that the loop has
left. -/
theorem conclude_ok {p : Progress} {w : World} {workflowId : Uid} {e : Execution}
    (h : ((conclude workflowId p).run w).1 = .ok e) : e.outcomes = (entryOf p).outcomes := by
  cases p with
  | through e =>
      rw [conclude, Prog.run_ask_bind, World.answer_now] at h
      rw [(finish_ok e h).1]
      rfl
  | stopped e error =>
      rw [conclude, Prog.run_ask_bind, World.answer_now] at h
      rw [(finish_ok e h).1]
      rfl
  | raised e f => exact absurd h (abort_not_ok workflowId f)

theorem only_conclude (workflowId : Uid) (p : Progress) :
    (conclude workflowId p).Only fun r => r.patch? = none := by
  have finishes (e : Execution) : (finish workflowId e).Only fun r => r.patch? = none := by
    refine only_bind (only_ask rfl) fun _ => only_bind (only_ask rfl) fun _ => ?_
    refine only_bind (only_ask rfl) fun _ => only_bind (only_ask rfl) fun _ => ?_
    exact only_bind (only_ask rfl) fun _ => only_pure _
  cases p with
  | through e => exact only_bind (only_ask rfl) fun _ => finishes _
  | stopped e error => exact only_bind (only_ask rfl) fun _ => finishes _
  | raised e f =>
      refine only_bind (only_ask rfl) fun _ => only_bind (only_ask rfl) fun _ => ?_
      refine only_bind (only_ask rfl) fun _ => only_bind (only_ask rfl) fun _ => ?_
      exact only_bind (only_ask rfl) fun _ => trivial

/-- What changes no record is done with the registry as it was. -/
theorem registry_run {α : Type} {m : Prog α} (plain : m.Only fun r => r.patch? = none)
    (w : World) : (m.run w).2.registry = w.registry :=
  plain.run (·.registry = w.registry) (fun _ _ same plain =>
    (World.answer_registry plain).trans same) rfl

/-! ## The theorem -/

/-- A run that came to this left the world like this, and its outcomes tell what it wrote. -/
structure WroteAs (settings : Settings) (workflow : Workflow) (context : Context)
    (os : List ActionOutcome) (w : World) (left : Except Failure Execution × World) : Prop where
  /-- The outcomes are those of the first actions, one for each, in their order. -/
  each : List.Forall₂ (CameTo (siteOf settings context workflow.id (.issued (w.issued + 1))))
    ((topLevel workflow).take os.length) os
  /-- The record of the context was written over as the outcomes tell, and no other. -/
  wrote : w.registry.Overwritten context.entityType context.entityId
    (writesOf settings (topLevel workflow) os) left.2.registry
  /-- The outcomes stand in the entry that the run came to. -/
  returned : ∀ e, left.1 = .ok e → e.outcomes = os
  /-- They stand in the entry that the run opened in memory, whatever it came to. -/
  held : w.store.isMemory = true → os = [] ∨
    ∃ e, left.2.store.Holds e ∧ e.id = .issued (w.issued + 1) ∧ e.outcomes = os

variable {settings : Settings} {workflow : Workflow} {context : Context} {w : World}

/-- What stops before its actions has written nothing. -/
theorem WroteAs.early {f : Failure} {w' : World} (same : w'.registry = w.registry) :
    WroteAs settings workflow context [] w (.error f, w') where
  each := by
    rw [List.length_nil, List.take_zero]
    exact .nil
  wrote := by
    rw [writesOf_nil]
    show w.registry.Overwritten _ _ [] w'.registry
    rw [same]
    exact .refl
  returned _ came := by cases came
  held _ := .inl rfl

/-- A run stops before its actions, or goes through them with its entry opened and told of. -/
theorem run_cases (settings : Settings) (workflow : Workflow) (trigger : Open TriggerKind)
    (context : Context) (triggeredBy : Option String) (w : World) :
    (∃ f w', (run settings workflow trigger context triggeredBy).run w = (.error f, w') ∧
      w'.registry = w.registry) ∨
    ∃ e₀ w₀ w₁, w.answer (.openExecution
        (Execution.opening workflow trigger context triggeredBy w.clock)) = (.ok e₀, w₀) ∧
      w₀.answer (.emit .started e₀) = (.ok (), w₁) := by
  have opening := World.answer_registry (w := w) (r := .openExecution
    (Execution.opening workflow trigger context triggeredBy w.clock)) rfl
  cases hopen : w.answer (.openExecution
      (Execution.opening workflow trigger context triggeredBy w.clock)) with
  | mk x w₀ =>
      rw [hopen] at opening
      cases x with
      | error f =>
          refine .inl ⟨f, w₀, ?_, opening⟩
          refine (run_bind_ok (Prog.run_ask .now w)).trans ?_
          exact run_bind_error ((Prog.run_ask _ _).trans hopen)
      | ok e₀ =>
          have telling := World.answer_registry (w := w₀) (r := .emit .started e₀) rfl
          cases htold : w₀.answer (.emit .started e₀) with
          | mk y w₁ =>
              rw [htold] at telling
              cases y with
              | error f => exact .inl ⟨f, w₁, run_of_unheard hopen htold, telling.trans opening⟩
              | ok _ => exact .inr ⟨e₀, w₀, w₁, rfl, htold⟩

/-- A run touches only its own record, and just as its outcomes tell. -/
theorem run_writes_own_record (settings : Settings) (workflow : Workflow)
    (trigger : Open TriggerKind) (context : Context) (triggeredBy : Option String) (w : World) :
    ∃ os, WroteAs settings workflow context os w
      ((run settings workflow trigger context triggeredBy).run w) := by
  rcases run_cases settings workflow trigger context triggeredBy w with
    ⟨f, w', ran, same⟩ | ⟨e₀, w₀, w₁, hopen, htold⟩
  · rw [ran]
    exact ⟨[], .early same⟩
  · have before : w₁.registry = w.registry := by
      have opening := World.answer_registry (w := w) (r := .openExecution
        (Execution.opening workflow trigger context triggeredBy w.clock)) rfl
      have telling := World.answer_registry (w := w₀) (r := .emit .started e₀) rfl
      rw [hopen] at opening
      rw [htold] at telling
      exact telling.trans opening
    have kept (memory : w.store.isMemory = true) : Keeps e₀.id w₁.store := by
      have shown := World.aside_answer w₀ (r := .emit .started e₀) rfl
      rw [htold] at shown
      exact (Keeps.of_createExecution memory (World.openExecution_ok hopen).2).of_table shown.table
    obtain ⟨rfl, -⟩ := World.openExecution_ok hopen
    obtain ⟨p, w₂, os, looped, each, id, outcomes, wrote⟩ :=
      runActions_writes (siteOf settings context workflow.id (.issued (w.issued + 1)))
        (topLevel workflow) { Execution.opening workflow trigger context triggeredBy w.clock with
          id := .issued (w.issued + 1) } w₁
    rw [run_of_opened hopen htold, run_bind_ok looped]
    refine ⟨os, each, ?_, ?_, ?_⟩
    · rw [registry_run (only_conclude workflow.id p), ← before]
      exact wrote
    · intro e came
      rw [conclude_ok came, outcomes]
      rfl
    · intro memory
      have still := (kept memory).runActions (siteOf settings context workflow.id
        (.issued (w.issued + 1))) (topLevel workflow) { Execution.opening workflow trigger context
          triggeredBy w.clock with id := .issued (w.issued + 1) }
      rw [looped] at still
      obtain ⟨e, holds, id', outcomes'⟩ := conclude_holds workflow.id (id ▸ still)
      exact .inr ⟨e, holds, id'.trans id, outcomes'.trans outcomes⟩

end Run
end RecordFlow
