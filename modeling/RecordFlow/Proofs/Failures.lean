/-
# Failures — the library's own

The library fails in ways of its own, each with a message, and else with what a
collaborator has reported to it.  Writing a value, rendering a text, reading a
configuration, evaluating conditions and finding a day or a rule fail in the
library's own ways only.
-/
import RecordFlow.Engine.Run

namespace RecordFlow

/-! ## Messages -/

theorem append_ne_empty {s t : String} (h : s ≠ "") : s ++ t ≠ "" :=
  fun none => h (String.append_eq_empty_iff.mp none).1

theorem ne_empty_append {s t : String} (h : t ≠ "") : s ++ t ≠ "" :=
  fun none => h (String.append_eq_empty_iff.mp none).2

theorem quoted_ne_empty (s : String) : Text.quoted s ≠ "" := by
  intro none
  have chars : (Text.quoted s).toList = [] := congrArg String.toList none
  rw [Text.quoted, String.toList_ofList] at chars
  cases chars

namespace Failure

/-- Whether a failure is of the library's own, and not reported by a collaborator. -/
def IsOwn : Failure → Prop
  | reported .. => False
  | _ => True

theorem uidMessage_ne_empty (problem : UidProblem) : uidMessage problem ≠ "" := by
  cases problem with
  | length => decide
  | digits s => exact append_ne_empty (by decide)

theorem spanMessage_ne_empty (problem : Instant.SpanProblem) : spanMessage problem ≠ "" := by
  cases problem with
  | tooManyDays days => exact append_ne_empty (append_ne_empty (by decide))
  | _ => decide

theorem message_ne_empty {f : Failure} (own : f.IsOwn) : f.message ≠ "" := by
  cases f with
  | reported name said => exact own.elim
  | badUid problem => exact uidMessage_ne_empty problem
  | badSpan problem => exact spanMessage_ne_empty problem
  | missingKey key => exact quoted_ne_empty key
  | notAMember shown vocabulary => exact append_ne_empty (ne_empty_append (by decide))
  | unreadableWord word vocabulary names => exact append_ne_empty (ne_empty_append (by decide))
  | badConfig action problem => exact append_ne_empty (ne_empty_append (by decide))
  | workflowNotFound id => exact ne_empty_append (by decide)
  | adapterNotFound entityType => exact ne_empty_append (by decide)
  | recordNotFound entityType entityId => exact ne_empty_append (by decide)
  | notAPair index length => exact ne_empty_append (by decide)
  | notAssembled entry => exact ne_empty_append (by decide)
  | _ => decide

theorem report_ne_empty {f : Failure} (own : f.IsOwn) : f.report ≠ "" := by
  rw [report, if_neg (message_ne_empty own)]
  exact message_ne_empty own

end Failure

/-! ## Computations that fail in the library's own way -/

/-- A computation fails, if it does, in one of the library's own ways. -/
def Owned {α : Type} (x : Except Failure α) : Prop := ∀ f, x = .error f → f.IsOwn

section

variable {α β : Type}

theorem owned_ok (a : α) : Owned (.ok a) := nofun

theorem owned_error {f : Failure} (own : f.IsOwn) : Owned (.error f : Except Failure α) := by
  intro g same
  exact Except.error.inj same ▸ own

theorem owned_bind {x : Except Failure α} {next : α → Except Failure β} (h : Owned x)
    (rest : ∀ a, Owned (next a)) : Owned (x >>= next) := by
  cases x with
  | ok a => exact rest a
  | error f => exact owned_error (h f rfl)

theorem owned_map {x : Except Failure α} (g : α → β) (h : Owned x) : Owned (g <$> x) := by
  cases x with
  | ok a => exact owned_ok _
  | error f => exact owned_error (h f rfl)

theorem owned_mapM {f : α → Except Failure β} (h : ∀ a, Owned (f a)) (xs : List α) :
    Owned (xs.mapM f) := by
  induction xs with
  | nil => exact owned_ok _
  | cons x xs ih =>
      rw [List.mapM_cons]
      exact owned_bind (h x) fun _ => owned_bind ih fun _ => owned_ok _

end

namespace Value

theorem owned_written (v : Value) (text : String) : Owned (v.written text) := by
  unfold written
  split
  · exact owned_ok _
  · exact owned_error trivial

theorem owned_stringify (v : Value) : Owned v.stringify := owned_written _ _

theorem owned_plainText (v : Value) : Owned v.plainText := owned_written _ _

theorem owned_equalNumbers (a b : Value) : Owned (equalNumbers a b) := by
  unfold equalNumbers
  split
  · exact owned_error trivial
  · exact owned_ok _

mutual

theorem owned_equal (a b : Value) : Owned (equal a b) := by
  unfold equal
  split
  · exact owned_ok _
  · exact owned_ok _
  · split
    · exact owned_equalItems _ _
    · exact owned_ok _
  · exact owned_equalItems _ _
  · split
    · exact owned_equalFields _ _
    · exact owned_ok _
  · split
    · exact owned_equalNumbers _ _
    · exact owned_ok _

theorem owned_equalItems (xs ys : List Value) : Owned (equalItems xs ys) := by
  unfold equalItems
  split
  · exact owned_ok _
  · split
    · exact owned_equalItems _ _
    · exact owned_equal _ _
  · exact owned_ok _

theorem owned_equalFields (fs gs : List (String × Value)) : Owned (equalFields fs gs) := by
  unfold equalFields
  split
  · exact owned_ok _
  · split
    · exact owned_ok _
    · split
      · exact owned_equalFields _ _
      · exact owned_equal _ _

end

theorem owned_same (a b : Value) : Owned (same a b) := by
  unfold same
  split
  · exact owned_equal a b
  · exact owned_ok _

theorem owned_sameAsAny (a : Value) (xs : List Value) : Owned (sameAsAny a xs) := by
  induction xs with
  | nil => exact owned_ok _
  | cons x xs ih =>
      unfold sameAsAny
      split
      · exact ih
      · exact owned_same a x

end Value

namespace Condition

theorem owned_toNumber (v : Value) : Owned (toNumber v) := by
  fun_cases toNumber v <;> first
    | exact owned_ok _
    | exact owned_error trivial

theorem owned_compareNumbers (holds : Binary64 → Binary64 → Bool) (a b : Value) :
    Owned (compareNumbers holds a b) :=
  owned_bind (owned_toNumber a) fun _ => owned_bind (owned_toNumber b) fun _ => owned_ok _

theorem owned_compareTexts (holds : List Char → List Char → Bool) (a b : Value) :
    Owned (compareTexts holds a b) :=
  owned_bind (owned_map _ a.owned_stringify) fun _ =>
    owned_bind (owned_map _ b.owned_stringify) fun _ => owned_ok _

theorem owned_isMember (a b : Value) : Owned (isMember a b) := by
  unfold isMember
  split
  · exact Value.owned_sameAsAny a _
  · exact owned_ok _

theorem owned_holds (op : Operator) (a b : Value) : Owned (holds op a b) := by
  cases op with
  | equals => exact Value.owned_same a b
  | notEquals => exact owned_map _ (Value.owned_same a b)
  | greaterThan | lessThan | greaterThanOrEquals | lessThanOrEquals =>
      exact owned_compareNumbers _ a b
  | contains | notContains | startsWith | endsWith => exact owned_compareTexts _ a b
  | isIn => exact owned_isMember a b
  | isNotIn => exact owned_map _ (owned_isMember a b)
  | _ => exact owned_ok _

theorem owned_eval (c : Condition) (entity : Fields) : Owned (c.eval entity) := by
  unfold eval
  split
  · exact owned_holds _ _ _
  · exact owned_ok _

theorem owned_evalAll (entity : Fields) (cs : List Condition) : Owned (evalAll entity cs) := by
  induction cs with
  | nil => exact owned_ok _
  | cons c cs ih =>
      unfold evalAll
      split
      · exact ih
      · exact owned_eval c entity

theorem owned_storedText (stored : Fields) (key : String) : Owned (storedText stored key) := by
  unfold storedText
  split
  · exact Value.owned_plainText _
  · exact owned_ok _

theorem owned_ofFields (stored : Fields) : Owned (ofFields stored) :=
  owned_bind (owned_storedText stored _) fun _ =>
    owned_bind (owned_storedText stored _) fun _ => owned_ok _

end Condition

namespace Template

theorem owned_renderPiece (entity : Fields) (piece : Piece) : Owned (piece.render entity) := by
  cases piece with
  | char c => exact owned_ok _
  | placeholder p =>
      rw [Piece.render]
      unfold Placeholder.render
      split
      · exact owned_ok _
      · exact owned_map _ (Value.owned_stringify _)

theorem owned_render (template : String) (entity : Fields) : Owned (render template entity) :=
  owned_bind (owned_mapM (owned_renderPiece entity) _) fun _ => owned_ok _

theorem owned_fieldText (entity : Fields) (path : String) : Owned (fieldText entity path) := by
  unfold fieldText textAt
  split
  · exact Value.owned_stringify _
  · exact owned_ok _

end Template

theorem AssignmentRule.owned_territoryUser (rule : AssignmentRule) (entity : Fields) :
    Owned (rule.territoryUser entity) := by
  unfold territoryUser
  split
  · exact owned_ok _
  · exact owned_bind (Value.owned_stringify _) fun _ => owned_ok _

namespace ActionConfig

theorem owned_optionalText (raw : Fields) (key : String) : Owned (optionalText raw key) := by
  unfold optionalText
  simp only
  split
  · exact owned_ok _
  · exact owned_map _ (Value.owned_plainText _)

theorem owned_textOr (fallback : String) (raw : Fields) (key : String) :
    Owned (textOr fallback raw key) :=
  owned_bind (owned_optionalText raw key) fun _ => owned_ok _

theorem owned_requiredText (kind : ActionKind) (raw : Fields) (key : String) :
    Owned (requiredText kind raw key) := by
  refine owned_bind (owned_optionalText raw key) fun s => ?_
  cases s with
  | some s => exact owned_ok _
  | none => exact owned_error trivial

theorem owned_readNumber (kind : ActionKind) (key : String) (v : Value) :
    Owned (readNumber kind key v) := by
  fun_cases readNumber kind key v <;> first
    | exact owned_ok _
    | exact owned_error trivial
    | exact owned_bind (Value.owned_written _ _) fun _ => owned_error trivial

theorem owned_optionalNumber (kind : ActionKind) (raw : Fields) (key : String) :
    Owned (optionalNumber kind raw key) := by
  unfold optionalNumber
  simp only
  split
  · exact owned_ok _
  · exact owned_map _ (owned_readNumber kind key _)

theorem owned_readHeaders (v : Value) : Owned (readHeaders v) := by
  unfold readHeaders
  split
  · split
    · exact owned_ok _
    · exact owned_error trivial
  · exact owned_ok _

theorem owned_readBranch (raw : Fields) : Owned (readBranch raw) := by
  unfold readBranch
  simp only
  split
  · split
    · exact owned_map _ (owned_mapM Condition.owned_ofFields _)
    · exact owned_error trivial
  · exact owned_ok _

theorem owned_readFields (kind : ActionKind) (raw : Fields) : Owned (readFields kind raw) := by
  have header (h : String × Value) : Owned (headerText h) :=
    owned_bind (Value.owned_plainText _) fun _ => owned_ok _
  cases kind with
  | sendEmail =>
      exact owned_map _ (owned_bind (owned_textOr _ _ _) fun _ =>
        owned_bind (owned_textOr _ _ _) fun _ =>
          owned_bind (owned_textOr _ _ _) fun _ => owned_ok _)
  | createTask =>
      exact owned_map _ (owned_bind (owned_textOr _ _ _) fun _ =>
        owned_bind (owned_optionalText _ _) fun _ =>
          owned_bind (owned_optionalNumber _ _ _) fun _ =>
            owned_bind (owned_optionalText _ _) fun _ =>
              owned_bind (owned_textOr _ _ _) fun _ => owned_ok _)
  | updateField => exact owned_map _ (owned_bind (owned_requiredText _ _ _) fun _ => owned_ok _)
  | sendWebhook =>
      exact owned_map _ (owned_bind (owned_readHeaders _) fun _ =>
        owned_bind (owned_requiredText _ _ _) fun _ => owned_bind (owned_textOr _ _ _) fun _ =>
          owned_bind (owned_mapM header _) fun _ => owned_bind (owned_optionalText _ _) fun _ =>
            owned_ok _)
  | assignOwner =>
      exact owned_map _ (owned_bind (owned_optionalText _ _) fun _ =>
        owned_bind (owned_optionalText _ _) fun _ => owned_ok _)
  | addTag | removeTag =>
      exact owned_map _ (owned_bind (owned_optionalText _ _) fun _ => owned_ok _)
  | createActivity =>
      exact owned_map _ (owned_bind (owned_textOr _ _ _) fun _ =>
        owned_bind (owned_textOr _ _ _) fun _ => owned_bind (owned_optionalText _ _) fun _ =>
          owned_ok _)
  | waitDelay =>
      exact owned_map _ (owned_bind (owned_optionalNumber _ _ _) fun _ =>
        owned_bind (owned_optionalText _ _) fun _ => owned_ok _)
  | conditionBranch => exact owned_map _ (owned_readBranch raw)

theorem owned_read (kind : ActionKind) (stored : Value) : Owned (read kind stored) := by
  unfold read
  split
  · exact owned_readFields kind []
  · exact owned_readFields kind _
  · exact owned_error trivial

end ActionConfig

theorem owned_dueDate (now : Instant) (days : Option Binary64) :
    Owned (Runner.dueDate now days) := by
  unfold Runner.dueDate
  split
  · exact owned_ok _
  · split
    · exact owned_error trivial
    · split
      · exact owned_ok _
      · exact owned_error trivial

theorem owned_ruleReference (reference : String) : Owned (Assignment.ruleReference reference) := by
  unfold Assignment.ruleReference
  split
  · exact owned_ok _
  · exact owned_error trivial

end RecordFlow
