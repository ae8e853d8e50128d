/-
# Templates — texts with placeholders for the fields of a record

A placeholder is `{{name}}` or `{{name.sub}}` with names made of word
characters.  A template is cut into its placeholders and the characters
between them in one pass from the left; each placeholder is then replaced by
the text of its value, or stands as it is when there is none.  What has been
put in is not looked at again.  Where a value that is to be put in has no text,
nothing is rendered.
-/
import RecordFlow.Value.Text
import RecordFlow.Failure

namespace RecordFlow

/-- A placeholder for a field, or for a field of the record in a field. -/
structure Placeholder where
  name : List Char
  sub : Option (List Char)
deriving DecidableEq, Repr

namespace Placeholder

/-- The characters of a placeholder as it is written. -/
def written (p : Placeholder) : List Char :=
  '\x7b' :: '\x7b' :: p.name
    ++ (match p.sub with
      | some s => '.' :: s
      | none => [])
    ++ ['\x7d', '\x7d']

/-- Whether a text begins with the two closing braces. -/
def closes : List Char → Bool
  | '\x7d' :: '\x7d' :: _ => true
  | _ => false

/-- A placeholder's second name and the braces after it, at the front of a text. -/
def readSub? (name rest : List Char) : Option Placeholder :=
  let sub := rest.takeWhile Text.isWordChar
  if !sub.isEmpty && closes (rest.dropWhile Text.isWordChar) then some ⟨name, some sub⟩ else none

/-- The placeholder at the front of a text, after its opening braces. -/
def readNames? (cs : List Char) : Option Placeholder :=
  let name := cs.takeWhile Text.isWordChar
  let rest := cs.dropWhile Text.isWordChar
  if name.isEmpty then none
  else if closes rest then some ⟨name, none⟩
  else match rest with
    | '.' :: rest => readSub? name rest
    | _ => none

/-- The placeholder at the front of a text. -/
def read? : List Char → Option Placeholder
  | '\x7b' :: '\x7b' :: rest => readNames? rest
  | _ => none

/-- The value that a placeholder stands for; null when there is none. -/
def value (p : Placeholder) (entity : Fields) : Value :=
  let v := entity.get (String.ofList p.name)
  match p.sub with
  | none => v
  | some s => v.field (String.ofList s)

/-- What a placeholder is replaced by. -/
def render (p : Placeholder) (entity : Fields) : Except Failure (List Char) :=
  match p.value entity with
  | .null => .ok p.written
  | v => String.toList <$> v.stringify

/-! ### Reading -/

theorem eq_of_closes {cs : List Char} (h : closes cs = true) :
    ∃ rest, cs = '\x7d' :: '\x7d' :: rest := by
  unfold closes at h
  split at h
  · exact ⟨_, rfl⟩
  · simp at h

theorem eq_written_of_readSub? {name rest : List Char} {p : Placeholder}
    (h : readSub? name rest = some p) :
    ∃ tail, '\x7b' :: '\x7b' :: name ++ '.' :: rest = p.written ++ tail := by
  simp only [readSub?] at h
  split at h
  · rename_i closed
    obtain ⟨tail, after⟩ := eq_of_closes (Bool.and_eq_true_iff.1 closed).2
    obtain rfl := Option.some.inj h
    refine ⟨tail, ?_⟩
    conv => lhs; rw [← List.takeWhile_append_dropWhile (p := Text.isWordChar) (l := rest), after]
    simp [written]
  · simp at h

theorem eq_written_of_readNames? {cs : List Char} {p : Placeholder} (h : readNames? cs = some p) :
    ∃ tail, '\x7b' :: '\x7b' :: cs = p.written ++ tail := by
  have parts := List.takeWhile_append_dropWhile (p := Text.isWordChar) (l := cs)
  simp only [readNames?] at h
  split at h
  · simp at h
  split at h
  · rename_i closed
    obtain ⟨tail, after⟩ := eq_of_closes closed
    obtain rfl := Option.some.inj h
    refine ⟨tail, ?_⟩
    conv => lhs; rw [← parts, after]
    simp [written]
  split at h
  · rename_i rest after
    obtain ⟨tail, same⟩ := eq_written_of_readSub? h
    exact ⟨tail, by rw [← same, ← after]; simp⟩
  · simp at h

theorem written_eq_cons (p : Placeholder) : ∃ cs, p.written = '\x7b' :: cs := ⟨_, rfl⟩

/-- A placeholder is read only where it is written. -/
theorem eq_written_of_read? {cs : List Char} {p : Placeholder} (h : read? cs = some p) :
    ∃ tail, cs = p.written ++ tail := by
  unfold read? at h
  split at h
  · exact eq_written_of_readNames? h
  · simp at h

end Placeholder

/-- A piece of a template. -/
inductive Piece where
  | char (c : Char)
  | placeholder (p : Placeholder)
deriving DecidableEq, Repr

namespace Piece

/-- The characters of a piece as it is written. -/
def written : Piece → List Char
  | char c => [c]
  | placeholder p => p.written

/-- The characters that a piece becomes. -/
def render (entity : Fields) : Piece → Except Failure (List Char)
  | char c => .ok [c]
  | placeholder p => p.render entity

end Piece

namespace Template

/-- The pieces of a text from the left; `skip` characters belong to a placeholder that has
been read already. -/
def piecesFrom (skip : Nat) : List Char → List Piece
  | [] => []
  | c :: rest =>
    match skip with
    | k + 1 => piecesFrom k rest
    | 0 =>
      match Placeholder.read? (c :: rest) with
      | some p => .placeholder p :: piecesFrom (p.written.length - 1) rest
      | none => .char c :: piecesFrom 0 rest

/-- The pieces of a template. -/
def pieces (template : String) : List Piece := piecesFrom 0 template.toList

theorem piecesFrom_drop (skip : Nat) (cs : List Char) :
    piecesFrom skip cs = piecesFrom 0 (cs.drop skip) := by
  induction cs generalizing skip with
  | nil => simp [piecesFrom]
  | cons c rest ih =>
    match skip with
    | 0 => rfl
    | k + 1 => simpa [piecesFrom] using ih k

theorem flatMap_written_piecesFrom (cs : List Char) :
    (piecesFrom 0 cs).flatMap Piece.written = cs := by
  match cs with
  | [] => rfl
  | c :: rest =>
    simp only [piecesFrom]
    split
    · rename_i p read
      obtain ⟨tail, same⟩ := Placeholder.eq_written_of_read? read
      obtain ⟨inner, opened⟩ := p.written_eq_cons
      have whole : rest = inner ++ tail := by
        rw [opened] at same; exact (List.cons.inj same).2
      have long : rest.drop (p.written.length - 1) = tail := by simp [opened, whole]
      have shorter : tail.length < (c :: rest).length := by
        rw [whole]; simp only [List.length_cons, List.length_append]; omega
      rw [piecesFrom_drop, long]
      simp only [List.flatMap_cons, Piece.written]
      rw [flatMap_written_piecesFrom tail, same]
    · simp only [List.flatMap_cons, Piece.written]
      rw [flatMap_written_piecesFrom rest]; rfl
termination_by cs.length

/-- A template with its placeholders replaced by what they stand for, from the left. -/
def render (template : String) (entity : Fields) : Except Failure String := do
  let texts ← (pieces template).mapM (Piece.render entity)
  return String.ofList texts.flatten

/-- Whether a template has a placeholder. -/
def hasPlaceholder (template : String) : Bool :=
  (pieces template).any fun
    | .placeholder _ => true
    | .char _ => false

/-- A value in the place of a template, rendered with a value in the place of a record: only a
text can be a template, and only a record has fields for placeholders. -/
def renderOn (template entity : Value) : Except Failure String :=
  match template, entity with
  | .text t, .record fs => render t fs
  | .text t, _ => if hasPlaceholder t then .error .noSuchOperation else .ok t
  | _, _ => .error .unsuited

/-! ## Paths -/

/-- The parts of a path between its dots. -/
def segments : List Char → List (List Char)
  | [] => [[]]
  | c :: rest =>
    if c == '.' then [] :: segments rest
    else match segments rest with
      | s :: more => (c :: s) :: more
      | [] => [[c]]

/-- The value at the end of a path; none when something on the way is no record. -/
def walk (v : Value) : List (List Char) → Option Value
  | [] => some v
  | s :: rest =>
    match v with
    | .record fs => walk (Fields.get fs (String.ofList s)) rest
    | _ => none

/-- The text at the end of a dotted path into a value, empty when there is nothing. -/
def textAt (v : Value) (path : String) : Except Failure String :=
  match walk v (segments path.toList) with
  | some v => v.stringify
  | none => .ok ""

/-- The text at the end of a dotted path into a record. -/
def fieldText (entity : Fields) (path : String) : Except Failure String :=
  textAt (.record entity) path

/-- The text at the end of a path that a value gives; only a text can be a path. -/
def textOn (entity path : Value) : Except Failure String :=
  match path with
  | .text p => textAt entity p
  | _ => .error .noSuchOperation

end Template
end RecordFlow
