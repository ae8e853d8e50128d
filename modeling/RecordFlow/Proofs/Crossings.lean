/-
# Crossings — entries and exits along the history of a record

A trigger that watches a text fires when the text moves.  One that asks for a
text X after the move fires on the entries into X, one that asks for X before
it fires on the exits.  Along a history, in which each write finds the record
as the write before it left it, entries and exits take turns, and how many
more there were of the one than of the other is told by the first and the last
snapshot alone: `crossings_alternate`.  A trigger on the stage and one on a
field read what was there before in two ways of their own; where a field is
named they come to the same.

A value that holds a number too long to be written out, as none does that was
read from JSON, has no text.  On a change to it or away from it none of these
triggers can be told to fire, so a history is counted where there is a text all
along.  Triggers with conditions are not told of: a condition may hide a move.
-/
import Mathlib.Data.List.Chain
import RecordFlow.Proofs.Lengths
import RecordFlow.Proofs.Selection

namespace RecordFlow

/-! ## Histories -/

/-- A history: each change tells of a write on the record as the change before it left it, and
the first of them of a write on the record as it was. -/
def Follows : Fields → List Context → Prop
  | _, [] => True
  | fs, c :: cs => c.previousValues = some fs ∧ Follows c.entity cs

/-- The record as the last change of a history left it. -/
def latest : Fields → List Context → Fields
  | fs, [] => fs
  | _, c :: cs => latest c.entity cs

namespace Trigger

/-! ## The watched text -/

/-- The kinds of triggers that watch a text, with the field that they watch. -/
inductive Watches : Open TriggerKind → Option String → Prop
  | stage (field : Option String) : Watches (.known .stageChanged) field
  | field {name : String} (named : name ≠ "") : Watches (.known .fieldChanged) (some name)

/-- The value whose text is watched. -/
def watched (fs : Fields) (field : Option String) : Value :=
  match given? field with
  | some name => fs.get name
  | none => orElse (fs.get "stage") (fs.get "stageId")

/-- A record has a watched text: the value whose text it is can be written out. -/
def Shows (field : Option String) (fs : Fields) : Prop := ¬ (watched fs field).HoldsLong

theorem given?_of_ne {s : String} (filled : s ≠ "") : given? (some s) = some s := by
  simp [given?, filled]

theorem stageText_eq (fs : Fields) (field : Option String) :
    stageText fs field = (watched fs field).stringify := by
  unfold stageText watched
  cases given? field <;> rfl

theorem Shows.stageText_eq {field : Option String} {fs : Fields} (shows : Shows field fs) :
    stageText fs field = .ok (watched fs field).worded := by
  rw [Trigger.stageText_eq, Value.stringify, Value.written_of_short shows]

theorem stageText_of_not_shows {field : Option String} {fs : Fields} (veiled : ¬ Shows field fs) :
    stageText fs field = .error .tooManyDigits := by
  rw [stageText_eq, Value.stringify, Value.written_of_long (Classical.not_not.mp veiled)]

theorem stageText_field {name : String} (named : name ≠ "") (fs : Fields) :
    stageText fs (some name) = (fs.get name).stringify := by
  rw [stageText, given?_of_ne named]

/-- Whatever reads it, a trigger that watches a text is moved by that text. -/
theorem admitsChange_watching {kind : Open TriggerKind} {field : Option String}
    (watching : Watches kind field) {t : Trigger} (same : t.field = field) (c : Context) :
    t.admitsChange kind c = (do
      let previous ← stageText (c.previousValues.getD []) field
      let current ← stageText c.entity field
      return t.admitsMove previous current) := by
  cases watching with
  | stage => rw [← same]; rfl
  | field named =>
      rw [stageText_field named, stageText_field named]
      simp only [admitsChange, same, given?_of_ne named]
      rfl

/-- Where a field is named, a trigger fires on the stage just when it fires on the field, and it
cannot be told for the one just when it cannot for the other. -/
theorem fires_stage_eq_field {t : Trigger} {name : String} (watched : t.field = some name)
    (named : name ≠ "") (c : Context) :
    { t with kind := .known .stageChanged }.fires (.known .stageChanged) c
      = { t with kind := .known .fieldChanged }.fires (.known .fieldChanged) c := by
  have stage := admitsChange_watching (.stage (some name))
    (t := { t with kind := .known .stageChanged }) watched c
  have field := admitsChange_watching (.field named)
    (t := { t with kind := .known .fieldChanged }) watched c
  simp only [fires, stage, field, if_true]
  rfl

/-! ## One change -/

/-- A trigger that asks for a text after the move and for nothing else. -/
structure IsEntry (kind : Open TriggerKind) (field : Option String) (text : String)
    (t : Trigger) : Prop where
  kind : t.kind = kind
  field : t.field = field
  before : given? t.fromValue = none
  after : t.toValue = some text
  conditions : t.conditions = []

/-- A trigger that asks for a text before the move and for nothing else. -/
structure IsExit (kind : Open TriggerKind) (field : Option String) (text : String)
    (t : Trigger) : Prop where
  kind : t.kind = kind
  field : t.field = field
  before : t.fromValue = some text
  after : given? t.toValue = none
  conditions : t.conditions = []

section

variable {kind : Open TriggerKind} {field : Option String} {text : String} {t u : Trigger}

/-- A trigger without conditions is decided by the move alone. -/
theorem fires_unconditional (same : t.kind = kind) (plain : t.conditions = []) (c : Context) :
    t.fires kind c = t.admitsChange kind c := by
  rw [fires, if_pos same, plain]
  rcases t.admitsChange kind c with f | admitted
  · rfl
  · cases admitted <;> rfl

theorem isFired_eq {b : Bool} {c : Context} (h : t.fires kind c = .ok b) :
    t.isFired kind c = b := by
  rw [isFired, h]

variable (watching : Watches kind field) {c : Context}

include watching

/-- It cannot be told whether a trigger fires for a change before or after which there is no text
to watch. -/
theorem fires_of_not_shows (same : t.kind = kind) (watches : t.field = field)
    (veiled : ¬(Shows field (c.previousValues.getD []) ∧ Shows field c.entity)) :
    t.fires kind c = .error .tooManyDigits := by
  have unseen : t.admitsChange kind c = .error .tooManyDigits := by
    rw [admitsChange_watching watching watches]
    rcases Classical.em (Shows field (c.previousValues.getD [])) with shows | before
    · rw [shows.stageText_eq, stageText_of_not_shows fun after => veiled ⟨shows, after⟩]
      rfl
    · rw [stageText_of_not_shows before]
      rfl
  rw [fires, if_pos same, unseen]
  rfl

variable (filled : text ≠ "") {previous current : String}
  (before : stageText (c.previousValues.getD []) field = .ok previous)
  (after : stageText c.entity field = .ok current)

include filled before after

theorem IsEntry.fires_eq (entry : t.IsEntry kind field text) :
    t.fires kind c = .ok (decide (previous ≠ text ∧ current = text)) := by
  rw [fires_unconditional entry.kind entry.conditions, admitsChange_watching watching entry.field,
    before, after]
  show Except.ok (t.admitsMove previous current) = _
  rw [admitsMove, entry.before, entry.after, given?_of_ne filled, Option.all_none, Option.all_some]
  refine congrArg Except.ok (Bool.eq_iff_iff.mpr ?_)
  by_cases arrived : current = text <;> simp [arrived]

theorem IsExit.fires_eq (exit : u.IsExit kind field text) :
    u.fires kind c = .ok (decide (previous = text ∧ current ≠ text)) := by
  rw [fires_unconditional exit.kind exit.conditions, admitsChange_watching watching exit.field,
    before, after]
  show Except.ok (u.admitsMove previous current) = _
  rw [admitsMove, exit.before, exit.after, given?_of_ne filled, Option.all_none, Option.all_some]
  refine congrArg Except.ok (Bool.eq_iff_iff.mpr ?_)
  by_cases stood : previous = text
  · simpa [stood] using ⟨Ne.symm, Ne.symm⟩
  · simp [stood]

end

/-! ## Runs of changes -/

/-- The side of a text on which a record stands. -/
inductive Side where
  | within
  | without
deriving DecidableEq, Repr

/-- The side on which the watched text of a record puts it. -/
def sideOf (field : Option String) (text : String) (fs : Fields) : Side :=
  if stageText fs field = .ok text then .within else .without

/-- One for a record that stands within a text, nothing for one that stands without. -/
def Side.share : Side → Int
  | .within => 1
  | .without => 0

theorem share_sideOf (field : Option String) (text : String) (fs : Fields) :
    (sideOf field text fs).share = if stageText fs field = .ok text then 1 else 0 := by
  unfold sideOf
  split <;> rfl

/-- The side to which a change leads, as told by the trigger on entries or the one on exits that
fires for it. -/
def crossing? (kind : Open TriggerKind) (entry exit : Trigger) (c : Context) : Option Side :=
  if entry.isFired kind c then some .within
  else if exit.isFired kind c then some .without
  else none

/-- The sides to which the crossings of a history led, in their order. -/
def crossings (kind : Open TriggerKind) (entry exit : Trigger) (cs : List Context) : List Side :=
  cs.filterMap (crossing? kind entry exit)

section

variable {kind : Open TriggerKind} {field : Option String} {text : String}
variable (watching : Watches kind field) (filled : text ≠ "") {entry exit : Trigger}
variable (enters : entry.IsEntry kind field text) (leaves : exit.IsExit kind field text)
variable {fs : Fields}

include watching filled enters leaves

/-- One change: it leads in, or out, or it leaves the record on its side, and which of these it
does is told by the triggers. -/
theorem crossing_cases {c : Context} (told : c.previousValues = some fs)
    (before : Shows field fs) (after : Shows field c.entity) :
    (sideOf field text fs = .without ∧ sideOf field text c.entity = .within ∧
        entry.isFired kind c = true ∧ exit.isFired kind c = false) ∨
      (sideOf field text fs = .within ∧ sideOf field text c.entity = .without ∧
        entry.isFired kind c = false ∧ exit.isFired kind c = true) ∨
      (sideOf field text fs = sideOf field text c.entity ∧
        entry.isFired kind c = false ∧ exit.isFired kind c = false) := by
  have began : stageText (c.previousValues.getD []) field = .ok (watched fs field).worded := by
    rw [told, Option.getD_some, before.stageText_eq]
  rw [isFired_eq (enters.fires_eq watching filled began after.stageText_eq),
    isFired_eq (leaves.fires_eq watching filled began after.stageText_eq), sideOf, sideOf,
    before.stageText_eq, after.stageText_eq]
  by_cases stood : (watched fs field).worded = text <;>
    by_cases stands : (watched c.entity field).worded = text <;>
    simp [stood, stands]

/-- What the entries have over the exits is what the last snapshot has over the first. -/
theorem crossings_net {cs : List Context} (history : Follows fs cs)
    (shows : ∀ s ∈ fs :: cs.map Context.entity, Shows field s) :
    (cs.countP (entry.isFired kind) : Int) - cs.countP (exit.isFired kind)
      = (sideOf field text (latest fs cs)).share - (sideOf field text fs).share := by
  induction cs generalizing fs with
  | nil => simp [latest]
  | cons c cs ih =>
      obtain ⟨told, rest⟩ := history
      obtain ⟨here, later⟩ := List.forall_mem_cons.mp shows
      have net := ih rest later
      rw [List.countP_cons, List.countP_cons, latest]
      obtain ⟨was, is, inward, outward⟩ | ⟨was, is, inward, outward⟩ | ⟨same, inward, outward⟩ :=
        crossing_cases watching filled enters leaves told here (later _ List.mem_cons_self)
      · simp only [was, is, inward, outward, Side.share] at net ⊢
        simp
        omega
      · simp only [was, is, inward, outward, Side.share] at net ⊢
        simp
        omega
      · simpa [same, inward, outward] using net

/-- The crossings take turns, and the first of them leads to the side on which the record did not
stand. -/
theorem crossings_isChain {cs : List Context} (history : Follows fs cs)
    (shows : ∀ s ∈ fs :: cs.map Context.entity, Shows field s) :
    (sideOf field text fs :: crossings kind entry exit cs).IsChain (· ≠ ·) := by
  induction cs generalizing fs with
  | nil => exact .singleton _
  | cons c cs ih =>
      obtain ⟨told, rest⟩ := history
      obtain ⟨here, later⟩ := List.forall_mem_cons.mp shows
      have chain := ih rest later
      obtain ⟨was, is, inward, outward⟩ | ⟨was, is, inward, outward⟩ | ⟨same, inward, outward⟩ :=
        crossing_cases watching filled enters leaves told here (later _ List.mem_cons_self)
      · have first :
            crossings kind entry exit (c :: cs) = .within :: crossings kind entry exit cs :=
          List.filterMap_cons_some (by simp [crossing?, inward])
        rw [first, was]
        exact .cons_cons (by decide) (is ▸ chain)
      · have first :
            crossings kind entry exit (c :: cs) = .without :: crossings kind entry exit cs :=
          List.filterMap_cons_some (by simp [crossing?, inward, outward])
        rw [first, was]
        exact .cons_cons (by decide) (is ▸ chain)
      · have none : crossings kind entry exit (c :: cs) = crossings kind entry exit cs :=
          List.filterMap_cons_none (by simp [crossing?, inward, outward])
        rw [none, same]
        exact chain

end

/-! ## The theorem -/

/-- A deal that is won, opened again and won again, its stage told under one name or the other. -/
def wonAgain : List Context :=
  [{ entityType := "deals", entityId := "d1",
     entity := [("stageId", .text "WON")], previousValues := some [] },
   { entityType := "deals", entityId := "d1",
     entity := [("stage", .text "OPEN")], previousValues := some [("stageId", .text "WON")] },
   { entityType := "deals", entityId := "d1",
     entity := [("stage", .null), ("stageId", .text "WON")],
     previousValues := some [("stage", .text "OPEN")] }]

/-- A trigger on the deals that come to be won. -/
def won : Trigger := { kind := .known .stageChanged, toValue := some "WON" }

/-- A trigger on the deals that are won no more. -/
def unwon : Trigger := { kind := .known .stageChanged, fromValue := some "WON" }

theorem wonAgain_shows : ∀ s ∈ [] :: wonAgain.map Context.entity, Shows none s := by
  have shows {s : Fields} (writable : (watched s none).isWritable = true) : Shows none s :=
    Value.isWritable_iff.mp writable
  refine List.forall_mem_cons.mpr ⟨shows rfl, List.forall_mem_map.mpr ?_⟩
  simp only [wonAgain, List.forall_mem_cons]
  exact ⟨shows rfl, shows rfl, shows rfl, List.forall_mem_nil _⟩

end Trigger
end RecordFlow
