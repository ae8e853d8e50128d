/-
# Tagging — the tags of records, against the changes that were made to them

An action that attaches a tag first makes the tag, unless there is one of its
name; an action that detaches one only looks for it.  So there are tags of just
those names that were attached somewhere, each with one identifier for ever;
and a record has the tags of the names that were last attached to it and not
detached since, whatever became of them elsewhere: `tags_replay_changes`.

The changes are made one after the other, through any adapters that carry tags,
and nothing is in store for the sites that they call.
-/
import RecordFlow.Proofs.Accounts
import RecordFlow.Proofs.Balance
import RecordFlow.Proofs.Writes

namespace RecordFlow

/-! ## The table of the tags -/

namespace Services

variable {s : Services} {name other id : String}

/-- The tag of a name stays what it was when another is made, and is there when it is made. -/
theorem findTag_upsertTag (s : Services) (name other : String) :
    (s.upsertTag name).2.findTag other
      = if other = name then some (s.upsertTag name).1 else s.findTag other := by
  unfold upsertTag
  cases found : s.findTag name with
  | some id =>
      by_cases same : other = name
      · rw [if_pos same, same, found]
      · rw [if_neg same]
  | none =>
      simp only [findTag] at found ⊢
      rw [List.lookup_append]
      by_cases same : other = name
      · subst same
        simp [found]
      · rw [if_neg same, Keyed.lookup_cons_if, if_neg same]
        simp

/-- The tag of a name that has one is the one that is used. -/
theorem upsertTag_of_found (found : s.findTag name = some id) : s.upsertTag name = (id, s) := by
  rw [upsertTag, found]

/-- The identifiers in the table are the ones that were issued for its names, in their order. -/
def AsIssued (s : Services) : Prop :=
  s.tagIds.map Prod.snd = (List.range s.tagIds.length).map (issue "tag")

/-- An identifier is issued for one name only. -/
theorem AsIssued.name_eq (h : s.AsIssued) (here : s.findTag name = some id)
    (there : s.findTag other = some id) : name = other := by
  have once : (s.tagIds.map Prod.snd).Nodup := by
    rw [h]
    exact List.nodup_range.map (issue_injective "tag")
  have listed {n : String} (found : s.findTag n = some id) : (n, id) ∈ s.tagIds := by
    obtain ⟨before, after, table, -⟩ := List.lookup_eq_some_iff.mp found
    simp [table]
  exact congrArg Prod.fst (List.inj_on_of_nodup_map once (listed here) (listed there) rfl)

theorem AsIssued.upsertTag (h : s.AsIssued) (name : String) : (s.upsertTag name).2.AsIssued := by
  unfold Services.upsertTag
  cases s.findTag name with
  | some id => exact h
  | none => exact numbered_append h rfl

end Services

/-! ## The tags of a record -/

namespace Adapter

theorem tagsOf_withTags (a : Adapter) (id other : String) (tags : List String) :
    (a.withTags id tags).tagsOf other = if other = id then tags else a.tagsOf other := by
  rw [tagsOf, withTags, Keyed.lookup_put]
  by_cases same : other = id
  · rw [if_pos same, if_pos same]
    rfl
  · rw [if_neg same, if_neg same, tagsOf]

theorem mem_tagsOf_connectTag {a : Adapter} {id other tag mark : String} :
    mark ∈ (a.connectTag id tag).tagsOf other ↔
      mark ∈ a.tagsOf other ∨ other = id ∧ mark = tag := by
  unfold connectTag
  by_cases has : tag ∈ a.tagsOf id
  · rw [if_pos has, or_iff_left_of_imp]
    rintro ⟨rfl, rfl⟩
    exact has
  · rw [if_neg has, tagsOf_withTags]
    by_cases same : other = id
    · simp [same]
    · simp [same]

theorem mem_tagsOf_disconnectTag {a : Adapter} {id other tag mark : String} :
    mark ∈ (a.disconnectTag id tag).tagsOf other ↔
      mark ∈ a.tagsOf other ∧ ¬ (other = id ∧ mark = tag) := by
  unfold disconnectTag
  by_cases has : tag ∈ a.tagsOf id
  · rw [if_pos has, tagsOf_withTags]
    by_cases same : other = id
    · simp [same]
    · simp [same]
  · rw [if_neg has, iff_self_and]
    rintro here ⟨rfl, rfl⟩
    exact has here

theorem nodup_connectTag {a : Adapter} (once : ∀ other, (a.tagsOf other).Nodup)
    (id tag other : String) : ((a.connectTag id tag).tagsOf other).Nodup := by
  unfold connectTag
  split
  · exact once other
  · rename_i fresh
    rw [tagsOf_withTags]
    split
    · exact List.nodup_append.mpr ⟨once id, by simp, by
        rintro mark here _ there rfl
        exact fresh (List.mem_singleton.mp there ▸ here)⟩
    · exact once other

theorem nodup_disconnectTag {a : Adapter} (once : ∀ other, (a.tagsOf other).Nodup)
    (id tag other : String) : ((a.disconnectTag id tag).tagsOf other).Nodup := by
  unfold disconnectTag
  split
  · rw [tagsOf_withTags]
    split
    · exact (once id).filter _
    · exact once other
  · exact once other

end Adapter

namespace Registry

theorem tagsOf_eq {r : Registry} {t : String} {a : Adapter} (found : r.adapter? t = some a)
    (id : String) : r.tagsOf t id = a.tagsOf id := by
  rw [tagsOf, found]
  rfl

theorem tagsOf_of_bare {r : Registry} (bare : ∀ a ∈ r, a.tags = []) (t id : String) :
    r.tagsOf t id = [] := by
  cases found : r.adapter? t with
  | none =>
      rw [tagsOf, found]
      rfl
  | some a =>
      rw [tagsOf_eq found, Adapter.tagsOf, bare a (List.mem_of_find?_eq_some found)]
      rfl

theorem tagsOf_register (r : Registry) (a : Adapter) (t id : String) :
    (r.register a).tagsOf t id = if a.entityType = t then a.tagsOf id else r.tagsOf t id := by
  rw [tagsOf, adapter?_register]
  by_cases same : a.entityType = t
  · rw [if_pos same, if_pos same]
    rfl
  · rw [if_neg same, if_neg same, tagsOf]

end Registry

/-! ## One change -/

/-- An action that attaches a tag to the record of its run or detaches it, with the name of the
tag, which is not empty. -/
structure TagChange where
  site : Runner.Site
  action : Action
  /-- Whether the tag is attached. -/
  adds : Bool
  name : String
  kind : action.kind = .known (if adds then .addTag else .removeTag)
  config : ∃ raw, action.config = .record raw ∧
    ActionConfig.optionalText raw "tagName" = .ok (some name)
  named : name ≠ ""

namespace TagChange

/-- The kind of the record. -/
def entityType (c : TagChange) : String := c.site.context.entityType

/-- The record. -/
def entityId (c : TagChange) : String := c.site.context.entityId

/-- Whether a change is of the tag with a name on a record. -/
def concerns (c : TagChange) (entityType entityId name : String) : Bool :=
  entityType = c.entityType && entityId = c.entityId && name = c.name

/-- The sites that a change calls. -/
def sites (c : TagChange) : List String := [
  "runner.execute",
  "services.upsert_tag",
  "services.find_tag",
  "adapter." ++ c.entityType ++ ".connect_tag",
  "adapter." ++ c.entityType ++ ".disconnect_tag"]

/-- A change can be made: records of the kind carry tags, and nothing is in store for it. -/
structure Served (c : TagChange) (w : World) : Prop where
  taggable : ∃ a, w.registry.adapter? c.entityType = some a ∧ a.taggable = true
  spared : ∀ site ∈ c.sites, w.Spares site

/-- What a change replies: the tag, if there is one. -/
def reply : Option String → Value
  | some id => .record [("tagId", .text id)]
  | none => .null

/-- The outcome of a change, by the tag of the name when it was made. -/
def outcome (c : TagChange) (tag : Option String) : ActionOutcome where
  actionId := c.action.id
  kind := c.action.kind
  status := .success
  result := reply tag

variable {c : TagChange} {w : World} {a : Adapter}

/-- The world after a tag was attached. -/
def attaching (c : TagChange) (w : World) (a : Adapter) : World :=
  { w with services := (w.services.upsertTag c.name).2 }.withAdapter
    (a.connectTag c.entityId (w.services.upsertTag c.name).1)

/-- The world after a tag was detached, if there was one. -/
def detaching (c : TagChange) (w : World) (a : Adapter) : World :=
  match w.services.findTag c.name with
  | some id => w.withAdapter (a.disconnectTag c.entityId id)
  | none => w

theorem tagToChange_run (found : w.registry.adapter? c.entityType = some a)
    (taggable : a.taggable = true) :
    (Runner.tagToChange c.site ⟨some c.name⟩).run w = (.ok (some c.name), w) := by
  have asked : w.answer (.findAdapter c.site.context.entityType) = (.ok (some true), w) := by
    show (Except.ok ((w.registry.adapter? c.entityType).map (·.taggable)), w) = _
    rw [found, Option.map_some, taggable]
  rw [Runner.tagToChange, Prog.run_ask_bind, asked]
  show (Except.ok (Assignment.given? (some c.name)), w) = _
  rw [Assignment.given?_of_ne c.named]

theorem addTag_run (h : c.Served w) (found : w.registry.adapter? c.entityType = some a)
    (taggable : a.taggable = true) :
    (Runner.addTag c.site ⟨some c.name⟩).run w
      = (.ok (reply (some (w.services.upsertTag c.name).1)), c.attaching w a) := by
  have made : w.answer (.upsertTag c.name) = (.ok (w.services.upsertTag c.name).1,
      { w with services := (w.services.upsertTag c.name).2 }) :=
    World.answer_of_spared rfl (h.spared _ (by simp [sites])) rfl rfl
  have connected := World.answer_connectTag
    (w := { w with services := (w.services.upsertTag c.name).2 }) (t := c.entityType)
    (h.spared _ (by simp [sites])) found taggable c.entityId (w.services.upsertTag c.name).1
  rw [Runner.addTag, Prog.run_bind_ok (tagToChange_run found taggable)]
  refine (Prog.run_bind_ok ((Prog.run_ask _ _).trans made)).trans ?_
  exact Prog.run_bind_ok ((Prog.run_ask _ _).trans connected)

theorem removeTag_run (h : c.Served w) (found : w.registry.adapter? c.entityType = some a)
    (taggable : a.taggable = true) :
    (Runner.removeTag c.site ⟨some c.name⟩).run w
      = (.ok (reply (w.services.findTag c.name)), c.detaching w a) := by
  have looked : w.answer (.findTag c.name) = (.ok (w.services.findTag c.name), w) :=
    World.answer_of_spared rfl (h.spared _ (by simp [sites])) rfl rfl
  rw [Runner.removeTag, Prog.run_bind_ok (tagToChange_run found taggable)]
  refine (Prog.run_bind_ok ((Prog.run_ask _ _).trans looked)).trans ?_
  rw [detaching]
  cases known : w.services.findTag c.name with
  | none => rfl
  | some id =>
      have disconnected := World.answer_disconnectTag (h.spared _ (by simp [sites])) found
        taggable c.entityId id
      exact Prog.run_bind_ok ((Prog.run_ask _ _).trans disconnected)

/-- The world after a change. -/
def changing (c : TagChange) (w : World) (a : Adapter) : World :=
  if c.adds then c.attaching w a else c.detaching w a

theorem findTag_changing (other : String) :
    (c.changing w a).services.findTag other =
      if c.adds = true ∧ other = c.name then some (w.services.upsertTag c.name).1
      else w.services.findTag other := by
  unfold changing
  cases adds : c.adds with
  | true =>
      simp only [if_true, true_and]
      exact Services.findTag_upsertTag w.services c.name other
  | false =>
      simp only [Bool.false_eq_true, if_false, false_and, detaching]
      cases w.services.findTag c.name <;> rfl

/-- A change always succeeds, and replies the tag of the name as it is afterwards. -/
theorem execute_run (h : c.Served w) (found : w.registry.adapter? c.entityType = some a)
    (taggable : a.taggable = true) :
    (Runner.execute c.site c.action).run w
      = (.ok (c.outcome ((c.changing w a).services.findTag c.name)), c.changing w a) := by
  obtain ⟨raw, config, names⟩ := c.config
  have entered : w.answer .enterRunner = (.ok (), w) :=
    World.answer_of_spared rfl (h.spared _ (by simp [sites])) rfl rfl
  have kind := c.kind
  rw [findTag_changing, changing]
  cases adds : c.adds with
  | true =>
      rw [adds, if_pos rfl] at kind
      have read : ActionConfig.read .addTag c.action.config
          = .ok (.tag ⟨some c.name⟩) := by
        rw [config]
        show ActionConfig.tag <$> ActionConfig.readTag raw = _
        rw [ActionConfig.readTag, names]
        rfl
      rw [Runner.execute_succeeds c.site kind entered read rfl (addTag_run h found taggable)]
      simp only [outcome, kind, if_true, and_self]
  | false =>
      rw [adds, if_neg (by decide)] at kind
      have read : ActionConfig.read .removeTag c.action.config
          = .ok (.tag ⟨some c.name⟩) := by
        rw [config]
        show ActionConfig.tag <$> ActionConfig.readTag raw = _
        rw [ActionConfig.readTag, names]
        rfl
      rw [Runner.execute_succeeds c.site kind entered read rfl
        (removeTag_run h found taggable)]
      simp only [outcome, kind, Bool.false_eq_true, if_false, false_and]

/-- What a change does to the tags: one of a new name is made where it is attached, and the record
gets it or loses it. -/
structure Made (c : TagChange) (w w' : World) : Prop where
  names : ∀ other, w'.services.findTag other =
    if c.adds = true ∧ other = c.name then some (w.services.upsertTag c.name).1
    else w.services.findTag other
  tags : ∀ t id tag, tag ∈ w'.registry.tagsOf t id ↔
    if c.adds = true
    then tag ∈ w.registry.tagsOf t id ∨
      t = c.entityType ∧ id = c.entityId ∧ w'.services.findTag c.name = some tag
    else tag ∈ w.registry.tagsOf t id ∧
      ¬ (t = c.entityType ∧ id = c.entityId ∧ w'.services.findTag c.name = some tag)
  issued : w.services.AsIssued → w'.services.AsIssued
  once : (∀ t id, (w.registry.tagsOf t id).Nodup) → ∀ t id, (w'.registry.tagsOf t id).Nodup
  served : ∀ d : TagChange, d.Served w → d.Served w'

/-- The registry has one adapter replaced by another of its layout: what the change does to the
tags of that adapter it does to the tags. -/
theorem made_of_register {w' : World} {a' : Adapter}
    (found : w.registry.adapter? c.entityType = some a) (layout : a'.layout = a.layout)
    (registry : w'.registry = w.registry.register a') (faults : w'.faults = w.faults)
    (names : ∀ other, w'.services.findTag other =
      if c.adds = true ∧ other = c.name then some (w.services.upsertTag c.name).1
      else w.services.findTag other)
    (tags : ∀ id tag, tag ∈ a'.tagsOf id ↔
      if c.adds = true
      then tag ∈ a.tagsOf id ∨ id = c.entityId ∧ w'.services.findTag c.name = some tag
      else tag ∈ a.tagsOf id ∧ ¬ (id = c.entityId ∧ w'.services.findTag c.name = some tag))
    (issued : w.services.AsIssued → w'.services.AsIssued)
    (once : (∀ id, (a.tagsOf id).Nodup) → ∀ id, (a'.tagsOf id).Nodup) : c.Made w w' := by
  have kind : a'.entityType = c.entityType :=
    (congrArg Prod.fst layout).trans (find?_mem found).2
  refine ⟨names, fun t id tag => ?tags, issued, fun once' t id => ?once, fun d served => ?served⟩
  case tags =>
    rw [registry, Registry.tagsOf_register, kind]
    by_cases same : c.entityType = t
    · subst same
      simpa [Registry.tagsOf_eq found] using tags id tag
    · simp [same, Ne.symm same]
  case once =>
    rw [registry, Registry.tagsOf_register]
    split
    · refine once (fun other => ?_) id
      exact Registry.tagsOf_eq found other ▸ once' c.entityType other
    · exact once' t id
  case served =>
    obtain ⟨b, there, carries⟩ := served.taggable
    refine ⟨?_, fun site mem => ?_⟩
    · rw [registry, Registry.adapter?_register, kind]
      by_cases same : c.entityType = d.entityType
      · rw [← same, found] at there
        obtain rfl := Option.some.inj there
        exact ⟨a', if_pos same, (congrArg (·.2.1) layout).trans carries⟩
      · exact ⟨b, (if_neg same).trans there, carries⟩
    · rw [World.Spares, faults]
      exact served.spared site mem

theorem made_attaching (found : w.registry.adapter? c.entityType = some a)
    (adds : c.adds = true) : c.Made w (c.attaching w a) := by
  have names := findTag_changing (c := c) (w := w) (a := a)
  rw [changing, if_pos adds] at names
  refine made_of_register found (Adapter.overwritten_of_connectTag _).layout rfl rfl names
    (fun id tag => ?_) (fun issued => issued.upsertTag c.name)
    fun once => Adapter.nodup_connectTag once _ _
  rw [Adapter.mem_tagsOf_connectTag, names c.name, if_pos adds, if_pos ⟨adds, rfl⟩]
  simp [eq_comm]

theorem made_detaching (found : w.registry.adapter? c.entityType = some a)
    (adds : c.adds = false) : c.Made w (c.detaching w a) := by
  have names := findTag_changing (c := c) (w := w) (a := a)
  rw [changing, if_neg (by simp [adds])] at names
  rw [detaching] at names ⊢
  cases known : w.services.findTag c.name with
  | none =>
      refine ⟨by simpa [known] using names, fun t id tag => ?_, id, id, fun _ => id⟩
      simp [adds, known]
  | some mark =>
      rw [known] at names
      refine made_of_register found (Adapter.overwritten_of_disconnectTag _).layout rfl rfl names
        (fun id tag => ?_) id fun once => Adapter.nodup_disconnectTag once _ _
      rw [Adapter.mem_tagsOf_disconnectTag, names c.name, if_neg (by simp [adds]), known]
      simp [adds, eq_comm]

/-- A change that can be made succeeds, replies the tag of the name as it is afterwards, and does
to the tags what a change does. -/
theorem Served.execute (h : c.Served w) :
    ∃ w', (Runner.execute c.site c.action).run w
        = (.ok (c.outcome (w'.services.findTag c.name)), w') ∧ c.Made w w' := by
  obtain ⟨a, found, taggable⟩ := h.taggable
  refine ⟨c.changing w a, execute_run h found taggable, ?_⟩
  unfold changing
  cases adds : c.adds with
  | true => exact made_attaching found adds
  | false => exact made_detaching found adds

/-! ## Changes one after the other -/

/-- The world after changes one after the other. -/
def after (changes : List TagChange) (w : World) : World :=
  Runner.after (changes.map fun c => (c.site, c.action)) w

/-- Whether the last change of the tag with a name on a record attached it. -/
def attached (changes : List TagChange) (entityType entityId name : String) : Bool :=
  ((changes.filter (·.concerns entityType entityId name)).getLast?).any (·.adds)

variable {before changes : List TagChange} {w' : World} {t id name : String}

theorem after_append (before changes : List TagChange) (w : World) :
    after (before ++ changes) w = after changes (after before w) := by
  rw [after, after, after, List.map_append, Runner.after, List.foldl_append]
  rfl

theorem attached_append :
    attached (changes ++ [c]) t id name =
      if c.concerns t id name then c.adds else attached changes t id name := by
  rw [attached, List.filter_append]
  cases concerned : c.concerns t id name with
  | true => simp [concerned]
  | false => simp [concerned, attached]

theorem concerns_iff : c.concerns t id name = true ↔
    t = c.entityType ∧ id = c.entityId ∧ name = c.name := by
  simp only [concerns, Bool.and_eq_true, decide_eq_true_eq, and_assoc]

theorem exists_of_attached (h : attached changes t id name = true) :
    ∃ c ∈ changes, c.adds = true ∧ name = c.name := by
  rw [attached] at h
  cases last : (changes.filter (·.concerns t id name)).getLast? with
  | none => simp [last] at h
  | some c =>
      obtain ⟨mem, concerned⟩ := List.mem_filter.mp (List.mem_of_getLast? last)
      exact ⟨c, mem, by simpa [last] using h, (concerns_iff.mp concerned).2.2⟩

/-- A name that has a tag keeps it. -/
theorem Made.findTag (h : c.Made w w') {tag : String} (known : w.services.findTag name = some tag) :
    w'.services.findTag name = some tag := by
  rw [h.names]
  split
  · rename_i same
    rw [← same.2, Services.upsertTag_of_found known]
  · exact known

/-- The tags are what changes from no tags on have made of them: there is one of each name that
was attached, and a record has those that were attached to it last. -/
structure Replayed (changes : List TagChange) (w : World) : Prop where
  names : ∀ name, (∃ tag, w.services.findTag name = some tag) ↔
    ∃ c ∈ changes, c.adds = true ∧ name = c.name
  issued : w.services.AsIssued
  tags : ∀ t id tag, tag ∈ w.registry.tagsOf t id ↔
    ∃ name, w.services.findTag name = some tag ∧ attached changes t id name = true
  once : ∀ t id, (w.registry.tagsOf t id).Nodup

namespace Replayed

theorem names_snoc (h : Replayed changes w) (made : c.Made w w') (name : String) :
    (∃ tag, w'.services.findTag name = some tag) ↔
      ∃ d ∈ changes ++ [c], d.adds = true ∧ name = d.name := by
  have apart : (∃ d ∈ changes ++ [c], d.adds = true ∧ name = d.name) ↔
      (∃ tag, w.services.findTag name = some tag) ∨ c.adds = true ∧ name = c.name := by
    rw [h.names]
    simp only [List.mem_append, List.mem_singleton, or_and_right, exists_or, exists_eq_left]
  rw [apart, made.names]
  by_cases here : c.adds = true ∧ name = c.name
  · simp [here]
  · simp [here]

/-- A name that was attached somewhere has had its tag since. -/
theorem known_of_attached (h : Replayed changes w) (made : c.Made w w') {tag : String}
    (att : attached changes t id name = true) (found : w'.services.findTag name = some tag) :
    w.services.findTag name = some tag := by
  obtain ⟨before, known⟩ := (h.names name).mpr (exists_of_attached att)
  rw [known, ← made.findTag known, found]

/-- Where the tag of a name is attached, it is one of the record's; where it is detached, it is
not. -/
theorem tags_snoc (h : Replayed changes w) (made : c.Made w w') (t id tag : String) :
    tag ∈ w'.registry.tagsOf t id ↔
      ∃ name, w'.services.findTag name = some tag ∧
        attached (changes ++ [c]) t id name = true := by
  have onward {name : String} (apart : c.concerns t id name = false) :
      attached (changes ++ [c]) t id name = attached changes t id name := by
    rw [attached_append, apart]
    rfl
  have concerned (name : String) (there : t = c.entityType ∧ id = c.entityId ∧ name = c.name) :
      attached (changes ++ [c]) t id name = c.adds := by
    rw [attached_append, if_pos (concerns_iff.mpr there)]
  rw [made.tags, h.tags]
  cases adds : c.adds with
  | true =>
      rw [if_pos rfl]
      constructor
      · rintro (⟨name, known, att⟩ | ⟨kind, record, found⟩)
        · refine ⟨name, made.findTag known, ?_⟩
          rw [attached_append, att, adds, ite_self]
        · exact ⟨c.name, found, (concerned c.name ⟨kind, record, rfl⟩).trans adds⟩
      · rintro ⟨name, found, att⟩
        cases here : c.concerns t id name with
        | true =>
            obtain ⟨kind, record, rfl⟩ := concerns_iff.mp here
            exact .inr ⟨kind, record, found⟩
        | false =>
            rw [onward here] at att
            exact .inl ⟨name, h.known_of_attached made att found, att⟩
  | false =>
      rw [if_neg Bool.false_ne_true]
      constructor
      · rintro ⟨⟨name, known, att⟩, apart⟩
        refine ⟨name, made.findTag known, ?_⟩
        cases here : c.concerns t id name with
        | true =>
            obtain ⟨kind, record, rfl⟩ := concerns_iff.mp here
            exact absurd ⟨kind, record, made.findTag known⟩ apart
        | false => rw [onward here, att]
      · rintro ⟨name, found, att⟩
        cases here : c.concerns t id name with
        | true =>
            rw [concerned name (concerns_iff.mp here), adds] at att
            cases att
        | false =>
            rw [onward here] at att
            refine ⟨⟨name, h.known_of_attached made att found, att⟩, ?_⟩
            rintro ⟨kind, record, own⟩
            -- the tag that is detached would be the tag of another name as well
            have same := (made.issued h.issued).name_eq found own
            rw [concerns_iff.mpr ⟨kind, record, same⟩] at here
            cases here

theorem snoc (h : Replayed changes w) (made : c.Made w w') : Replayed (changes ++ [c]) w' where
  names := h.names_snoc made
  issued := made.issued h.issued
  tags := h.tags_snoc made
  once := made.once h.once

end Replayed

/-- Changes one after the other are replayed; no name loses its tag, and what could be done before
can be done after. -/
theorem Replayed.after (h : Replayed before w) (served : ∀ c ∈ changes, c.Served w) :
    Replayed (before ++ changes) (after changes w) ∧
      (∀ name tag, w.services.findTag name = some tag →
        (after changes w).services.findTag name = some tag) ∧
      ∀ d : TagChange, d.Served w → d.Served (after changes w) := by
  -- on the changes to come: each that is made goes over to those that were made before
  induction changes generalizing before w with
  | nil => exact ⟨(List.append_nil before).symm ▸ h, fun _ _ => id, fun _ => id⟩
  | cons c changes ih =>
      obtain ⟨w', ran, made⟩ := (served c List.mem_cons_self).execute
      have world : TagChange.after (c :: changes) w = TagChange.after changes w' := by
        have first : TagChange.after [c] w = w' := congrArg Prod.snd ran
        rw [← first, ← after_append]
        rfl
      obtain ⟨replayed, kept, goesOn⟩ := ih (h.snoc made) fun d mem =>
        made.served d (served d (List.mem_cons_of_mem _ mem))
      rw [world]
      refine ⟨?_, fun name tag known => kept name tag (made.findTag known), fun d can => ?_⟩
      · rwa [List.append_assoc] at replayed
      · exact goesOn d (made.served d can)

/-- Before any change there are no tags. -/
theorem replayed_nil (noTags : w.services.tagIds = []) (bare : ∀ a ∈ w.registry, a.tags = []) :
    Replayed [] w where
  names name := by simp [Services.findTag, noTags]
  issued := by rw [Services.AsIssued, noTags]; rfl
  tags t id tag := by simp [Registry.tagsOf_of_bare bare, attached]
  once t id := by simp [Registry.tagsOf_of_bare bare]

/-- Tags replay the changes that were made to them.  From no tags on, every change succeeds, and
after any number of them there is a tag of just those names that were attached, which it keeps;
no two names have one tag; and a record has just the tags of the names that the last change to it
attached, each once. -/
theorem tags_replay_changes (served : ∀ c ∈ changes, c.Served w)
    (noTags : w.services.tagIds = []) (bare : ∀ a ∈ w.registry, a.tags = []) :
    (∀ before c later, changes = before ++ c :: later →
      (Runner.execute c.site c.action).run (after before w)
        = (.ok (c.outcome ((after (before ++ [c]) w).services.findTag c.name)),
            after (before ++ [c]) w)) ∧
    ∀ before later, changes = before ++ later →
      (∀ name, (∃ tag, (after before w).services.findTag name = some tag) ↔
        ∃ c ∈ before, c.adds = true ∧ name = c.name) ∧
      (∀ name tag, (after before w).services.findTag name = some tag →
        (after changes w).services.findTag name = some tag) ∧
      (∀ name other tag, (after before w).services.findTag name = some tag →
        (after before w).services.findTag other = some tag → name = other) ∧
      ∀ t id, ((after before w).registry.tagsOf t id).Nodup ∧
        ∀ tag, tag ∈ (after before w).registry.tagsOf t id ↔
          ∃ name, (after before w).services.findTag name = some tag ∧
            attached before t id name = true := by
  have start := replayed_nil noTags bare
  constructor
  · rintro before c later rfl
    obtain ⟨-, -, goesOn⟩ := start.after fun d mem => served d (List.mem_append_left _ mem)
    obtain ⟨w', ran, -⟩ := (goesOn c (served c (by simp))).execute
    have world : after (before ++ [c]) w = w' := by
      rw [after_append]
      exact congrArg Prod.snd ran
    rw [world, ran]
  · rintro before later rfl
    obtain ⟨replayed, -, goesOn⟩ := start.after fun d mem => served d (List.mem_append_left _ mem)
    rw [List.nil_append] at replayed
    obtain ⟨-, kept, -⟩ := replayed.after fun d mem =>
      goesOn d (served d (List.mem_append_right before mem))
    refine ⟨replayed.names, ?_, fun name other tag => replayed.issued.name_eq, ?_⟩
    · rw [after_append]
      exact kept
    · exact fun t id => ⟨replayed.once t id, replayed.tags t id⟩

/-- A change of the tag with a name on a record. -/
def of (adds : Bool) (name entityType entityId : String) (named : name ≠ "") : TagChange where
  site := ⟨{}, { entityType, entityId }, none, none⟩
  action :=
    { id := ⟨7⟩
      kind := .known (if adds then .addTag else .removeTag)
      config := .record [("tagName", .text name)] }
  adds := adds
  name := name
  kind := rfl
  config := ⟨_, rfl, by
    simp [ActionConfig.optionalText, Fields.get, Fields.find?, Value.isBlank, named]⟩
  named := named

/-- A contact gets a tag twice and loses it; a deal gets another and would lose both. -/
def tidying : List TagChange := [
  .of true "vip" "contacts" "c1" (by decide),
  .of true "vip" "contacts" "c1" (by decide),
  .of false "hot" "deals" "d1" (by decide),
  .of true "hot" "deals" "d1" (by decide),
  .of false "vip" "deals" "d1" (by decide),
  .of false "vip" "contacts" "c1" (by decide)]

/-- Contacts and deals, both of which carry tags. -/
def tagWorld : World where
  registry := [{ entityType := "contacts", taggable := true },
    { entityType := "deals", taggable := true }]

theorem tidying_served : ∀ c ∈ tidying, c.Served tagWorld := by
  have spared (site : String) : tagWorld.Spares site := by simp [World.Spares, tagWorld]
  simp only [tidying, List.forall_mem_cons, List.not_mem_nil, false_implies, implies_true,
    and_true]
  refine ⟨?_, ?_, ?_, ?_, ?_, ?_⟩
  all_goals exact ⟨⟨_, rfl, rfl⟩, fun site _ => spared site⟩

/-- Both tags are there in the end.  The deal has the one that was attached to it; the contact has
lost the other, which the deal never had. -/
theorem tidying_replayed :
    (∀ c ∈ tidying, c.Served tagWorld) ∧ tagWorld.services.tagIds = [] ∧
      (∀ a ∈ tagWorld.registry, a.tags = []) ∧
      ∃ vip hot, vip ≠ hot ∧
        (after tidying tagWorld).services.findTag "vip" = some vip ∧
        (after tidying tagWorld).services.findTag "hot" = some hot ∧
        hot ∈ (after tidying tagWorld).registry.tagsOf "deals" "d1" ∧
        vip ∉ (after tidying tagWorld).registry.tagsOf "deals" "d1" ∧
        vip ∉ (after tidying tagWorld).registry.tagsOf "contacts" "c1" := by
  have bare : ∀ a ∈ tagWorld.registry, a.tags = [] := by simp [tagWorld]
  obtain ⟨-, replayed⟩ := tags_replay_changes tidying_served rfl bare
  obtain ⟨names, -, apart, tags⟩ := replayed tidying [] (List.append_nil _).symm
  obtain ⟨vip, isVip⟩ := (names "vip").mpr ⟨_, List.mem_cons_self, rfl, rfl⟩
  obtain ⟨hot, isHot⟩ := (names "hot").mpr
    ⟨.of true "hot" "deals" "d1" (by decide), by simp [tidying], rfl, rfl⟩
  have unlike : vip ≠ hot := by
    rintro rfl
    exact absurd (apart "vip" "hot" vip isVip isHot) (by decide)
  have lacks (t id : String) (lost : attached tidying t id "vip" = false) :
      vip ∉ (after tidying tagWorld).registry.tagsOf t id := by
    intro mem
    obtain ⟨name, found, att⟩ := ((tags t id).2 vip).mp mem
    obtain rfl := apart name "vip" vip found isVip
    rw [lost] at att
    cases att
  refine ⟨tidying_served, rfl, bare, vip, hot, unlike, isVip, isHot, ?_, ?_, ?_⟩
  · exact ((tags "deals" "d1").2 hot).mpr ⟨"hot", isHot, rfl⟩
  · exact lacks "deals" "d1" rfl
  · exact lacks "contacts" "c1" rfl

end TagChange

end RecordFlow
