/-
# Paths — names between dots, and the placeholders that say the same

A path names a field, a field of the record in it, and so on.  What stands at
the end of the names is told by `Stands` without a word on how a path is cut
or walked; the text at the end of a path is the text of that value, and empty
when there is none.  A placeholder reads by another way, and no further than
two names, and comes to the same value: where the path reads nothing, the
placeholder is left as it is written, and where the value has no text, neither
reads it.
-/
import RecordFlow.Proofs.Substitution

namespace RecordFlow

namespace Placeholder

/-- The names of a placeholder. -/
def names (p : Placeholder) : List String :=
  String.ofList p.name :: (p.sub.map String.ofList).toList

theorem IsToken.dotless {p : Placeholder} (h : p.IsToken) :
    ∀ name ∈ p.names, '.' ∉ name.toList := by
  have dot : Text.isWordChar '.' = false := by decide
  intro name mem
  rcases List.mem_cons.mp mem with rfl | mem
  · rw [String.toList_ofList]
    exact h.name.not_mem dot
  · obtain ⟨s, sub, rfl⟩ := Option.map_eq_some_iff.mp (Option.mem_toList.mp mem)
    rw [String.toList_ofList]
    exact (h.sub s sub).not_mem dot

end Placeholder

namespace Template

/-! ## Names between dots -/

/-- The parts of a path are those between its dots. -/
theorem segments_eq_splitOn (cs : List Char) : segments cs = cs.splitOn '.' := by
  unfold List.splitOn
  induction cs with
  | nil => rfl
  | cons c rest ih =>
      rw [segments, ih, List.splitOnP_cons_eq_if_modifyHead]
      split
      · rfl
      · obtain ⟨s, more, parts⟩ := List.exists_cons_of_ne_nil (List.splitOnP_ne_nil (· == '.') rest)
        rw [parts]
        rfl

/-- Names without dots are the parts of the path that is made of them. -/
theorem segments_intercalate {names : List String} (some_name : names ≠ [])
    (dotless : ∀ name ∈ names, '.' ∉ name.toList) :
    segments (".".intercalate names).toList = names.map String.toList := by
  have parts : ∀ cs ∈ names.map String.toList, '.' ∉ cs := by
    intro cs mem
    obtain ⟨name, here, rfl⟩ := List.mem_map.mp mem
    exact dotless name here
  have dot : ".".toList = ['.'] := rfl
  rw [segments_eq_splitOn, String.toList_intercalate, dot]
  exact List.splitOn_intercalate '.' parts (by simpa using some_name)

/-! ## What stands at the end of names -/

/-- The value that a value has at the end of names: itself after none, and after a first one
what the field of that name has at the end of the others. -/
inductive Stands : Value → List String → Value → Prop
  | here (v : Value) : Stands v [] v
  | further {fields : Fields} {name : String} {names : List String} {v w : Value} :
      Fields.find? fields name = some v → Stands v names w →
        Stands (.record fields) (name :: names) w

/-- A walk along the names comes to what stands at their end. -/
theorem Stands.walk {v w : Value} {names : List String} (h : Stands v names w) :
    walk v (names.map String.toList) = some w := by
  induction h with
  | here v => rfl
  | further found _ ih =>
      rw [List.map_cons, Template.walk, String.ofList_toList, Fields.get, found]
      exact ih

/-- Nothing is beyond null. -/
theorem walk_null {names : List (List Char)} {w : Value} (h : walk .null names = some w) :
    w = .null := by
  cases names with
  | nil => exact (Option.some.inj h).symm
  | cons => cases h

/-- What a walk comes to stands at the end of the names, unless it is null. -/
theorem stands_of_walk {v w : Value} {names : List String}
    (h : walk v (names.map String.toList) = some w) (filled : w ≠ .null) : Stands v names w := by
  induction names generalizing v with
  | nil =>
      obtain rfl := Option.some.inj h
      exact .here v
  | cons name names ih =>
      cases v with
      | record fields =>
          rw [List.map_cons, walk, String.ofList_toList, Fields.get] at h
          cases found : Fields.find? fields name with
          | none =>
              rw [found] at h
              exact absurd (walk_null h) filled
          | some v =>
              rw [found] at h
              exact .further found (ih h)
      | _ => cases h

section
variable {entity : Fields} {names : List String} (some_name : names ≠ [])
  (dotless : ∀ name ∈ names, '.' ∉ name.toList)
include some_name dotless

theorem fieldText_intercalate : fieldText entity (".".intercalate names) =
    ((walk (.record entity) (names.map String.toList)).map Value.stringify).getD (.ok "") := by
  rw [fieldText, textAt, segments_intercalate some_name dotless]
  split <;> simp [*]

/-- A path reads the text of the value that stands at its end. -/
theorem fieldText_of_stands {v : Value} (h : Stands (.record entity) names v) :
    fieldText entity (".".intercalate names) = v.stringify := by
  rw [fieldText_intercalate some_name dotless, h.walk]
  rfl

/-- A path at whose end nothing but null stands reads nothing. -/
theorem fieldText_of_none (h : ∀ v, Stands (.record entity) names v → v = .null) :
    fieldText entity (".".intercalate names) = .ok "" := by
  rw [fieldText_intercalate some_name dotless]
  cases walked : walk (.record entity) (names.map String.toList) with
  | none => rfl
  | some w =>
      obtain rfl : w = .null := by
        by_cases filled : w = .null
        · exact filled
        · exact h w (stands_of_walk walked filled)
      rfl

end

/-! ## Placeholders -/

/-- A placeholder finds what stands at the end of its names. -/
theorem finds_iff_stands (entity : Fields) (p : Placeholder) (v : Value) :
    Finds entity p v ↔ Stands (.record entity) p.names v := by
  constructor
  · intro h
    cases h with
    | field found => exact .further found (.here _)
    | part outer inner => exact .further outer (.further inner (.here _))
  · obtain ⟨name, sub | sub⟩ := p
    · rintro (_ | ⟨found, _ | _⟩)
      exact .field found
    · rintro (_ | ⟨outer, _ | ⟨inner, _ | _⟩⟩)
      exact .part outer inner

theorem render_token {p : Placeholder} (h : p.IsToken) (entity : Fields) :
    render (String.ofList p.written) entity = String.ofList <$> p.render entity := by
  have alone : pieces (String.ofList p.written) = [.placeholder p] := by
    have scanned := piecesFrom_token h []
    rw [List.append_nil] at scanned
    rw [pieces, String.toList_ofList, scanned]
    rfl
  rw [render, alone, List.mapM_cons, Piece.render]
  cases p.render entity with
  | error f => rfl
  | ok cs =>
      show Except.ok (String.ofList (cs ++ [])) = .ok (String.ofList cs)
      rw [List.append_nil]

/-- A token and a path that read alike: both the text of the value at the end of the names, and
neither where the value has no text; and where no value but null stands the token stays as it is
and the path reads nothing. -/
structure ReadAlike (entity : Fields) (token path : String) (names : List String) : Prop where
  held : ∀ v, Stands (.record entity) names v → v ≠ .null → ¬ v.HoldsLong →
    ∃ text, v.stringify = .ok text ∧ render token entity = .ok text ∧
      fieldText entity path = .ok text
  unheld : ∀ v, Stands (.record entity) names v → v.HoldsLong →
    render token entity = .error .tooManyDigits ∧ fieldText entity path = .error .tooManyDigits
  missing : (∀ v, Stands (.record entity) names v → v = .null) →
    render token entity = .ok token ∧ fieldText entity path = .ok ""

/-- A token and the path of its names read alike. -/
theorem readAlike_names {p : Placeholder} (h : p.IsToken) (entity : Fields) :
    ReadAlike entity (String.ofList p.written) (".".intercalate p.names) p.names := by
  have some_name : p.names ≠ [] := List.cons_ne_nil _ _
  have reads {v : Value} (stands : Stands (.record entity) p.names v) (filled : v ≠ .null) :
      render (String.ofList p.written) entity = v.stringify ∧
        fieldText entity (".".intercalate p.names) = v.stringify := by
    have found : p.value entity = v := ((finds_iff_stands entity p v).mpr stands).value_eq
    refine ⟨?_, fieldText_of_stands some_name h.dotless stands⟩
    rw [render_token h, Placeholder.render_of_ne (by rwa [found]), found]
    cases v.stringify with
    | error f => rfl
    | ok text => exact congrArg Except.ok String.ofList_toList
  constructor
  · intro v stands filled short
    obtain ⟨rendered, walked⟩ := reads stands filled
    have text : v.stringify = .ok v.worded := Value.written_of_short short
    exact ⟨v.worded, text, rendered.trans text, walked.trans text⟩
  · intro v stands long
    have filled : v ≠ .null := by
      rintro rfl
      cases long
    obtain ⟨rendered, walked⟩ := reads stands filled
    have refused : v.stringify = .error .tooManyDigits := Value.written_of_long long
    exact ⟨rendered.trans refused, walked.trans refused⟩
  · intro nothing
    have null : p.value entity = .null := by
      by_cases filled : p.value entity = .null
      · exact filled
      · exact nothing _ ((finds_iff_stands entity p _).mp (finds_value filled))
    refine ⟨?_, fieldText_of_none some_name h.dotless nothing⟩
    rw [render_token h, Placeholder.render_of_null null]
    rfl

/-- A token of two names reads what the path with a dot between them reads, and a token of one
name what the name alone reads. -/
theorem tokens_read_paths (entity : Fields) {a b : String} (first : Placeholder.IsName a.toList)
    (second : Placeholder.IsName b.toList) :
    ReadAlike entity ("\x7b\x7b" ++ a ++ "." ++ b ++ "\x7d\x7d") (a ++ "." ++ b) [a, b] ∧
      ReadAlike entity ("\x7b\x7b" ++ a ++ "\x7d\x7d") a [a] := by
  have one : Placeholder.IsToken ⟨a.toList, none⟩ := ⟨first, nofun⟩
  have two : Placeholder.IsToken ⟨a.toList, some b.toList⟩ :=
    ⟨first, fun s same => Option.some.inj same ▸ second⟩
  constructor
  · have token : String.ofList (Placeholder.written ⟨a.toList, some b.toList⟩)
        = "\x7b\x7b" ++ a ++ "." ++ b ++ "\x7d\x7d" := by
      rw [← String.toList_inj]
      simp [Placeholder.written]
    simpa [token, Placeholder.names] using readAlike_names two entity
  · have token : String.ofList (Placeholder.written ⟨a.toList, none⟩)
        = "\x7b\x7b" ++ a ++ "\x7d\x7d" := by
      rw [← String.toList_inj]
      simp [Placeholder.written]
    simpa [token, Placeholder.names] using readAlike_names one entity

/-- The name of a company, by its token and by its path. -/
theorem company_name_read :
    Placeholder.IsName "company".toList ∧ Placeholder.IsName "name".toList ∧
      render "\x7b\x7bcompany.name\x7d\x7d" [("company", .record [("name", .text "Acme")])]
        = .ok "Acme" ∧
      fieldText [("company", .record [("name", .text "Acme")])] "company.name" = .ok "Acme" := by
  have first : Placeholder.IsName "company".toList :=
    ⟨by decide, List.all_eq_true.mp (by decide)⟩
  have second : Placeholder.IsName "name".toList :=
    ⟨by decide, List.all_eq_true.mp (by decide)⟩
  have stands : Stands (.record [("company", .record [("name", .text "Acme")])])
      ["company", "name"] (.text "Acme") := .further rfl (.further rfl (.here _))
  have short : ¬ Value.HoldsLong (.text "Acme") := Value.not_holdsLong_text _
  obtain ⟨text, said, rendered, walked⟩ :=
    (tokens_read_paths _ first second).1.held _ stands nofun short
  obtain rfl : "Acme" = text := Except.ok.inj said
  exact ⟨first, second, rendered, walked⟩

end Template
end RecordFlow
