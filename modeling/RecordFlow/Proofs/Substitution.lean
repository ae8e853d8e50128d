/-
# Substitution — every token of a template once, and nothing else

A token is two opening braces, one name or two with a dot between them, and two
closing braces.  No two tokens of a text overlap, so there is one way only to
cut a text into characters and all of its tokens, and the scan from the left
finds it: `isFactoring_iff`.  Rendering puts one text in the place of each
piece and joins what it has put; what a token becomes is told by `Becomes`
without a word on how it is found.  A token whose value has no text leaves
nothing rendered.
-/
import RecordFlow.Proofs.Lengths
import RecordFlow.Proofs.Sequences
import RecordFlow.Template

namespace RecordFlow

/-! ## Tokens -/

namespace Placeholder

/-- A name that a placeholder may have. -/
structure IsName (cs : List Char) : Prop where
  filled : cs ≠ []
  word : ∀ c ∈ cs, Text.isWordChar c = true

/-- A placeholder as a token tells it: its names are names. -/
structure IsToken (p : Placeholder) : Prop where
  name : IsName p.name
  sub : ∀ s, p.sub = some s → IsName s

/-- The characters of a placeholder after its opening braces. -/
def body (p : Placeholder) : List Char :=
  p.name ++ (match p.sub with
    | some s => '.' :: s
    | none => []) ++ ['\x7d', '\x7d']

theorem written_eq_body (p : Placeholder) : p.written = '\x7b' :: '\x7b' :: p.body := by
  obtain ⟨name, sub | sub⟩ := p <;> simp [written, body]

theorem IsName.not_mem {cs : List Char} (h : IsName cs) {c : Char}
    (other : Text.isWordChar c = false) : c ∉ cs := by
  intro mem
  rw [h.word c mem] at other
  cases other

theorem IsToken.brace_not_mem {p : Placeholder} (h : p.IsToken) : '\x7b' ∉ p.body := by
  have brace : Text.isWordChar '\x7b' = false := by decide
  have name := h.name.not_mem brace
  unfold body
  cases sub : p.sub with
  | none => simp [name]
  | some s => simp [name, (h.sub s sub).not_mem brace]

theorem body_ne_nil (p : Placeholder) : p.body ≠ [] := by
  simp [body]

/-! ### Reading tokens -/

/-- A name in front of another character is all that is read of the word. -/
theorem IsName.split {cs : List Char} (h : IsName cs) {c : Char}
    (other : Text.isWordChar c = false) (rest : List Char) :
    (cs ++ c :: rest).takeWhile Text.isWordChar = cs ∧
      (cs ++ c :: rest).dropWhile Text.isWordChar = c :: rest := by
  rw [List.takeWhile_append_of_pos h.word, List.dropWhile_append_of_pos h.word]
  simp [other]

/-- A token is read wherever it is written. -/
theorem IsToken.read?_written {p : Placeholder} (h : p.IsToken) (tail : List Char) :
    read? (p.written ++ tail) = some p := by
  obtain ⟨name, sub⟩ := p
  have some_name : name.isEmpty = false := by simpa using h.name.filled
  cases sub with
  | none =>
      obtain ⟨names, rest⟩ := h.name.split (c := '\x7d') (by decide) ('\x7d' :: tail)
      have opened : (written ⟨name, none⟩ ++ tail)
          = '\x7b' :: '\x7b' :: (name ++ '\x7d' :: '\x7d' :: tail) := by simp [written]
      rw [opened, read?, readNames?, names, rest, some_name]
      rfl
  | some s =>
      obtain ⟨names, rest⟩ :=
        h.name.split (c := '.') (by decide) (s ++ '\x7d' :: '\x7d' :: tail)
      obtain ⟨subs, last⟩ := (h.sub s rfl).split (c := '\x7d') (by decide) ('\x7d' :: tail)
      have some_sub : s.isEmpty = false := by simpa using (h.sub s rfl).filled
      have opened : (written ⟨name, some s⟩ ++ tail)
          = '\x7b' :: '\x7b' :: (name ++ '.' :: (s ++ '\x7d' :: '\x7d' :: tail)) := by
        simp [written]
      rw [opened, read?, readNames?, names, rest, some_name]
      show readSub? name (s ++ '\x7d' :: '\x7d' :: tail) = _
      rw [readSub?, subs, last, some_sub]
      rfl

theorem isName_takeWhile {cs : List Char}
    (filled : (cs.takeWhile Text.isWordChar).isEmpty = false) :
    IsName (cs.takeWhile Text.isWordChar) :=
  ⟨by simpa using filled, List.all_eq_true.mp List.all_takeWhile⟩

theorem isToken_of_readSub? {name rest : List Char} {p : Placeholder} (first : IsName name)
    (h : readSub? name rest = some p) : p.IsToken := by
  rw [readSub?] at h
  split at h
  · rename_i found
    obtain rfl := Option.some.inj h
    have filled := (Bool.and_eq_true_iff.mp found).1
    exact ⟨first, fun s hs => Option.some.inj hs ▸ isName_takeWhile (by simpa using filled)⟩
  · cases h

theorem isToken_of_readNames? {cs : List Char} {p : Placeholder} (h : readNames? cs = some p) :
    p.IsToken := by
  revert h
  fun_cases readNames? cs with
  | case1 => exact nofun
  | case2 name rest filled =>
      intro h
      obtain rfl := Option.some.inj h
      exact ⟨isName_takeWhile (Bool.eq_false_iff.mpr filled), nofun⟩
  | case3 name rest filled =>
      intro h
      exact isToken_of_readSub? (isName_takeWhile (Bool.eq_false_iff.mpr filled)) h
  | case4 => exact nofun

/-- Only tokens are read. -/
theorem isToken_of_read? {cs : List Char} {p : Placeholder} (h : read? cs = some p) :
    p.IsToken := by
  unfold read? at h
  split at h
  · exact isToken_of_readNames? h
  · cases h

/-- Between the braces that open one token and those that close it no other can begin. -/
theorem IsToken.begins {p : Placeholder} (h : p.IsToken) {before after rest : List Char}
    (two : p.written ++ after = before ++ '\x7b' :: '\x7b' :: rest) :
    before = [] ∨ p.written.length ≤ before.length := by
  rw [written_eq_body, List.cons_append, List.cons_append] at two
  match before with
  | [] => exact .inl rfl
  | [c] =>
      -- the second opening brace is followed by a name, not by a third
      obtain ⟨d, inner, opened⟩ := List.exists_cons_of_ne_nil p.body_ne_nil
      rw [opened] at two
      simp only [List.cons_append, List.nil_append, List.cons.injEq] at two
      obtain rfl : d = '\x7b' := two.2.2.1
      exact absurd (opened ▸ List.mem_cons_self) h.brace_not_mem
  | c :: d :: more =>
      refine .inr ?_
      have inner : p.body ++ after = more ++ '\x7b' :: '\x7b' :: rest := by
        simpa using (List.cons.inj (List.cons.inj two).2).2
      rcases List.append_eq_append_iff.mp inner with ⟨w, long, -⟩ | ⟨w, long, next⟩
      · simp [written_eq_body, long]
      · cases w with
        | nil => simp_all [written_eq_body]
        | cons b w =>
            obtain rfl : '\x7b' = b := (List.cons.inj next).1
            exact absurd (long ▸ List.mem_append_right more List.mem_cons_self) h.brace_not_mem

end Placeholder

/-! ## Occurrences -/

/-- A token in a text, with what stands before it and after it. -/
structure Occurs (text before : List Char) (p : Placeholder) (after : List Char) : Prop where
  token : p.IsToken
  here : text = before ++ (p.written ++ after)

namespace Occurs

variable {text before after : List Char} {p : Placeholder}

theorem read? (h : Occurs text [] p after) : Placeholder.read? text = some p := by
  rw [h.here]
  exact h.token.read?_written after

/-- A token in the rest of a text is one in the text. -/
theorem further (h : Occurs text before p after) (first : List Char) :
    Occurs (first ++ text) (first ++ before) p after :=
  ⟨h.token, by rw [h.here, List.append_assoc]⟩

/-- A token after the front of a text is one in the rest. -/
theorem nearer {first : List Char} (h : Occurs (first ++ text) (first ++ before) p after) :
    Occurs text before p after :=
  ⟨h.token, by simpa using h.here⟩

/-- Of two tokens in one text the later one begins where the earlier one does, and is the
same, or not before the earlier one has ended. -/
theorem later {before' after' : List Char} {q : Placeholder} (first : Occurs text before p after)
    (second : Occurs text before' q after') (order : before.length ≤ before'.length) :
    (before = before' ∧ p = q ∧ after = after') ∨
      ∃ between, before' = before ++ (p.written ++ between) := by
  have start : before <+: before' :=
    List.prefix_of_prefix_length_le ⟨_, first.here.symm⟩ ⟨_, second.here.symm⟩ order
  obtain ⟨gap, rfl⟩ := start
  have rest : p.written ++ after = gap ++ (q.written ++ after') := by
    have both := first.here.symm.trans second.here
    simpa using both
  have next : p.written ++ after = gap ++ '\x7b' :: '\x7b' :: (q.body ++ after') := by
    rw [rest, q.written_eq_body]
    rfl
  rcases first.token.begins next with rfl | long
  · have same : p = q := by
      have here := first.token.read?_written after
      rw [rest] at here
      exact Option.some.inj (here.symm.trans (second.token.read?_written after'))
    subst same
    exact .inl ⟨by simp, rfl, by simpa using rest⟩
  · obtain ⟨between, rfl⟩ : p.written <+: gap :=
      List.prefix_of_prefix_length_le ⟨_, rest⟩ ⟨_, rfl⟩ long
    exact .inr ⟨between, rfl⟩

end Occurs

/-- No two tokens of a text overlap: the one ends before the other begins. -/
def TokensApart (text : List Char) : Prop :=
  ∀ before p after before' q after', Occurs text before p after → Occurs text before' q after' →
    (before = before' ∧ p = q ∧ after = after') ∨
      before.length + p.written.length ≤ before'.length ∨
      before'.length + q.written.length ≤ before.length

theorem tokensApart (text : List Char) : TokensApart text := by
  intro before p after before' q after' first second
  rcases Nat.le_total before.length before'.length with order | order
  · rcases first.later second order with same | ⟨between, apart⟩
    · exact .inl same
    · refine .inr (.inl ?_)
      simp only [apart, List.length_append]
      omega
  · rcases second.later first order with ⟨hb, hp, ha⟩ | ⟨between, apart⟩
    · exact .inl ⟨hb.symm, hp.symm, ha.symm⟩
    · refine .inr (.inr ?_)
      simp only [apart, List.length_append]
      omega

namespace Template

/-! ## The scan -/

theorem piecesFrom_token {p : Placeholder} (h : p.IsToken) (tail : List Char) :
    piecesFrom 0 (p.written ++ tail) = .placeholder p :: piecesFrom 0 tail := by
  have read := h.read?_written tail
  obtain ⟨inner, opened⟩ := p.written_eq_cons
  rw [opened, List.cons_append] at read ⊢
  rw [piecesFrom, read]
  show Piece.placeholder p :: piecesFrom (p.written.length - 1) (inner ++ tail) = _
  rw [piecesFrom_drop, opened]
  simp

theorem piecesFrom_char {c : Char} {rest : List Char} (h : Placeholder.read? (c :: rest) = none) :
    piecesFrom 0 (c :: rest) = .char c :: piecesFrom 0 rest := by
  rw [piecesFrom, h]

/-- What holds of the empty text, of a text after a token and of one after a character that
begins no token holds of every text. -/
theorem scan_induction {motive : List Char → Prop} (empty : motive [])
    (token : ∀ (p : Placeholder) tail, p.IsToken → motive tail → motive (p.written ++ tail))
    (char : ∀ c rest, Placeholder.read? (c :: rest) = none → motive rest → motive (c :: rest))
    (text : List Char) : motive text := by
  match text with
  | [] => exact empty
  | c :: rest =>
      match read : Placeholder.read? (c :: rest) with
      | none => exact char c rest read (scan_induction empty token char rest)
      | some p =>
          obtain ⟨tail, whole⟩ := Placeholder.eq_written_of_read? read
          have shorter : tail.length < (c :: rest).length := by
            have size := congrArg List.length whole
            simp only [List.length_append, Placeholder.written_eq_body, List.length_cons] at size ⊢
            omega
          rw [whole]
          exact token p tail (Placeholder.isToken_of_read? read)
            (scan_induction empty token char tail)
termination_by text.length
decreasing_by
  · exact Nat.lt_succ_self rest.length
  · exact shorter

/-! ## Factorings -/

/-- Pieces that make up a text so that every token of it, and nothing else, is a placeholder
among them. -/
structure IsFactoring (text : List Char) (ps : List Piece) : Prop where
  whole : ps.flatMap Piece.written = text
  tokens : ∀ p, .placeholder p ∈ ps → p.IsToken
  all : ∀ before p after, Occurs text before p after →
    ∃ qs rs, ps = qs ++ .placeholder p :: rs ∧
      qs.flatMap Piece.written = before ∧ rs.flatMap Piece.written = after

theorem written_ne_nil (piece : Piece) : piece.written ≠ [] := by
  cases piece with
  | char c => exact List.cons_ne_nil _ _
  | placeholder p => simp [Piece.written, Placeholder.written_eq_body]

namespace IsFactoring

variable {text : List Char} {ps : List Piece}

/-- What follows the first piece factors the rest of the text. -/
theorem tail {piece : Piece} (h : IsFactoring (piece.written ++ text) (piece :: ps)) :
    IsFactoring text ps where
  whole := by simpa using h.whole
  tokens p mem := h.tokens p (List.mem_cons_of_mem piece mem)
  all before p after here := by
    obtain ⟨qs, rs, parts, front, back⟩ := h.all _ p after (here.further piece.written)
    cases qs with
    | nil =>
        have none_before : piece.written ++ before = [] := front.symm
        exact absurd (List.append_eq_nil_iff.mp none_before).1 (written_ne_nil piece)
    | cons q qs =>
        obtain ⟨rfl, rfl⟩ := List.cons.inj parts
        exact ⟨qs, rs, rfl, by simpa using front, back⟩

/-- A token at the front of a text is the first piece of every factoring. -/
theorem head {p : Placeholder} {after : List Char} (h : IsFactoring text ps)
    (here : Occurs text [] p after) : ∃ rs, ps = .placeholder p :: rs := by
  obtain ⟨qs, rs, parts, front, -⟩ := h.all [] p after here
  cases qs with
  | nil => exact ⟨rs, parts⟩
  | cons q qs =>
      rw [List.flatMap_cons, List.append_eq_nil_iff] at front
      exact absurd front.1 (written_ne_nil q)

/-- Every factoring is what the scan finds. -/
theorem eq_piecesFrom (h : IsFactoring text ps) : ps = piecesFrom 0 text := by
  induction ps generalizing text with
  | nil => rw [← h.whole]; rfl
  | cons piece ps ih =>
      have parts : text = piece.written ++ ps.flatMap Piece.written := h.whole.symm
      subst parts
      have rest := ih h.tail
      cases piece with
      | placeholder p =>
          rw [Piece.written, piecesFrom_token (h.tokens p List.mem_cons_self), ← rest]
      | char c =>
          have none_here : Placeholder.read? (c :: ps.flatMap Piece.written) = none := by
            cases read : Placeholder.read? (c :: ps.flatMap Piece.written) with
            | none => rfl
            | some p =>
                obtain ⟨after, here⟩ := Placeholder.eq_written_of_read? read
                obtain ⟨rs, first⟩ := h.head ⟨Placeholder.isToken_of_read? read, here⟩
                cases first
          show Piece.char c :: ps = piecesFrom 0 (c :: ps.flatMap Piece.written)
          rw [piecesFrom_char none_here, ← rest]

end IsFactoring

/-- The scan finds every token of a text and nothing else. -/
theorem isFactoring_piecesFrom (text : List Char) : IsFactoring text (piecesFrom 0 text) := by
  refine ⟨flatMap_written_piecesFrom text, ?_, ?_⟩
  · induction text using scan_induction with
    | empty => simp [piecesFrom]
    | token p tail isToken ih =>
        intro q mem
        rw [piecesFrom_token isToken] at mem
        rcases List.mem_cons.mp mem with first | later
        · exact Piece.placeholder.inj first ▸ isToken
        · exact ih q later
    | char c rest none_here ih =>
        intro q mem
        rw [piecesFrom_char none_here] at mem
        rcases List.mem_cons.mp mem with first | later
        · cases first
        · exact ih q later
  · induction text using scan_induction with
    | empty =>
        intro before p after here
        have nothing := here.here.symm
        simp [Placeholder.written_eq_body] at nothing
    | token q tail isToken ih =>
        intro before p after here
        rw [piecesFrom_token isToken]
        have first : Occurs (q.written ++ tail) [] q tail := ⟨isToken, rfl⟩
        rcases first.later here (Nat.zero_le _) with ⟨rfl, rfl, rfl⟩ | ⟨between, rfl⟩
        · exact ⟨[], _, rfl, rfl, flatMap_written_piecesFrom tail⟩
        · obtain ⟨qs, rs, parts, front, back⟩ := ih between p after here.nearer
          refine ⟨.placeholder q :: qs, rs, by rw [parts]; rfl, ?_, back⟩
          rw [List.flatMap_cons, front]
          rfl
    | char c rest none_here ih =>
        intro before p after here
        rw [piecesFrom_char none_here]
        cases before with
        | nil => exact absurd here.read? (by simp [none_here])
        | cons d before =>
            obtain rfl : c = d := (List.cons.inj here.here).1
            have inRest : Occurs rest before p after := ⟨here.token, (List.cons.inj here.here).2⟩
            obtain ⟨qs, rs, parts, front, back⟩ := ih before p after inRest
            refine ⟨.char c :: qs, rs, by rw [parts]; rfl, ?_, back⟩
            rw [List.flatMap_cons, front]
            rfl

/-- There is one factoring of a text, and the scan finds it. -/
theorem isFactoring_iff (text : List Char) (ps : List Piece) :
    IsFactoring text ps ↔ ps = piecesFrom 0 text :=
  ⟨IsFactoring.eq_piecesFrom, fun h => h ▸ isFactoring_piecesFrom text⟩

/-! ## What the pieces become -/

/-- The value that a record has at the name of a placeholder, or at its second name in the
record at the first. -/
inductive Finds (entity : Fields) : Placeholder → Value → Prop
  | field {name : List Char} {v : Value} :
      entity.find? (String.ofList name) = some v → Finds entity ⟨name, none⟩ v
  | part {name sub : List Char} {fields : Fields} {v : Value} :
      entity.find? (String.ofList name) = some (.record fields) →
      Fields.find? fields (String.ofList sub) = some v → Finds entity ⟨name, some sub⟩ v

/-- The text that a piece becomes: a character itself, a token the text of the value that it
names, or itself when there is no value but null. -/
inductive Becomes (entity : Fields) : Piece → List Char → Prop
  | char (c : Char) : Becomes entity (.char c) [c]
  | value {p : Placeholder} {v : Value} {text : String} :
      Finds entity p v → v ≠ .null → v.stringify = .ok text →
      Becomes entity (.placeholder p) text.toList
  | verbatim {p : Placeholder} :
      (∀ v, Finds entity p v → v = .null) → Becomes entity (.placeholder p) p.written

/-- A piece that becomes no text: a token that names a value which has none. -/
def FindsLong (entity : Fields) (piece : Piece) : Prop :=
  ∃ p v, piece = .placeholder p ∧ Finds entity p v ∧ v.HoldsLong

theorem Finds.value_eq {entity : Fields} {p : Placeholder} {v : Value} (h : Finds entity p v) :
    p.value entity = v := by
  cases h with
  | field found => simp [Placeholder.value, Fields.get, found]
  | part outer inner => simp [Placeholder.value, Fields.get, outer, Value.field, inner]

/-- What a placeholder stands for is found, unless it is null. -/
theorem finds_value {entity : Fields} {p : Placeholder} (h : p.value entity ≠ .null) :
    Finds entity p (p.value entity) := by
  obtain ⟨name, sub | sub⟩ := p
  · cases found : entity.find? (String.ofList name) with
    | none => simp [Placeholder.value, Fields.get, found] at h
    | some v => exact .field (by simp [Placeholder.value, Fields.get, found])
  · cases found : entity.find? (String.ofList name) with
    | none => simp [Placeholder.value, Fields.get, found, Value.field] at h
    | some v =>
        cases v with
        | record fields =>
            cases inner : Fields.find? fields (String.ofList sub) with
            | none => simp [Placeholder.value, Fields.get, found, Value.field, inner] at h
            | some w =>
                exact .part found
                  (by simp [Placeholder.value, Fields.get, found, Value.field, inner])
        | _ => simp [Placeholder.value, Fields.get, found, Value.field] at h

theorem Placeholder.render_of_null {p : Placeholder} {entity : Fields}
    (h : p.value entity = .null) : p.render entity = .ok p.written := by
  simp [Placeholder.render, h]

theorem Placeholder.render_of_ne {p : Placeholder} {entity : Fields}
    (h : p.value entity ≠ .null) :
    p.render entity = String.toList <$> (p.value entity).stringify := by
  unfold Placeholder.render
  split
  · contradiction
  · rfl

/-- A piece becomes the text that it is rendered as, and no other. -/
theorem becomes_iff {entity : Fields} {piece : Piece} {cs : List Char} :
    Becomes entity piece cs ↔ piece.render entity = .ok cs := by
  constructor
  · intro h
    cases h with
    | char c => rfl
    | value found filled text =>
        rw [← found.value_eq] at filled text
        rw [Piece.render, Placeholder.render_of_ne filled, text]
        rfl
    | @verbatim p none_found =>
        have nothing : p.value entity = .null := by
          by_cases filled : p.value entity = .null
          · exact filled
          · exact none_found _ (finds_value filled)
        exact Placeholder.render_of_null nothing
  · intro rendered
    cases piece with
    | char c =>
        obtain rfl := Except.ok.inj rendered
        exact .char c
    | placeholder p =>
        rw [Piece.render] at rendered
        by_cases nothing : p.value entity = .null
        · rw [Placeholder.render_of_null nothing] at rendered
          obtain rfl := Except.ok.inj rendered
          exact .verbatim fun v found => found.value_eq.symm.trans nothing
        · rw [Placeholder.render_of_ne nothing] at rendered
          obtain ⟨text, has, rfl⟩ := ok_of_map_ok rendered
          exact .value (finds_value nothing) nothing has

/-- A piece fails to be rendered just when it names a value without a text. -/
theorem render_eq_error_iff {entity : Fields} {piece : Piece} {f : Failure} :
    piece.render entity = .error f ↔ f = .tooManyDigits ∧ FindsLong entity piece := by
  cases piece with
  | char c => exact iff_of_false nofun fun ⟨_, _, _, same, _⟩ => nomatch same
  | placeholder p =>
      rw [Piece.render]
      by_cases nothing : p.value entity = .null
      · rw [Placeholder.render_of_null nothing]
        refine iff_of_false nofun ?_
        rintro ⟨-, _, v, same, found, long⟩
        obtain rfl := Piece.placeholder.inj same
        rw [← found.value_eq, nothing] at long
        cases long
      · have finds : FindsLong entity (.placeholder p) ↔ (p.value entity).HoldsLong := by
          constructor
          · rintro ⟨_, v, same, found, long⟩
            obtain rfl := Piece.placeholder.inj same
            exact found.value_eq ▸ long
          · exact fun long => ⟨p, _, rfl, finds_value nothing, long⟩
        rw [Placeholder.render_of_ne nothing, finds, map_eq_error_iff]
        exact Value.written_eq_error_iff

/-- A template reads a value that is too long to be written out. -/
def ReadsLong (entity : Fields) (template : String) : Prop :=
  ∃ piece ∈ pieces template, FindsLong entity piece

section

variable {entity : Fields} {template : String}

theorem render_of_readsLong (long : ReadsLong entity template) :
    render template entity = .error .tooManyDigits := by
  obtain ⟨piece, mem, long⟩ := long
  have failed : (pieces template).mapM (Piece.render entity) = .error .tooManyDigits :=
    (mapM_eq_error_iff fun piece _ e failed => (render_eq_error_iff.mp failed).1).mpr
      ⟨piece, mem, render_eq_error_iff.mpr ⟨rfl, long⟩⟩
  rw [render, failed]
  rfl

theorem exists_texts (short : ¬ ReadsLong entity template) :
    ∃ texts, (pieces template).mapM (Piece.render entity) = .ok texts ∧
      render template entity = .ok (String.ofList texts.flatten) := by
  obtain ⟨texts, rendered⟩ : ∃ texts, (pieces template).mapM (Piece.render entity) = .ok texts :=
    exists_mapM_ok fun piece mem => ok_of_not_fails fun ⟨f, failed⟩ =>
      short ⟨piece, mem, (render_eq_error_iff.mp failed).2⟩
  exact ⟨texts, rendered, by rw [render, rendered]; rfl⟩

end

/-- Tokens do not overlap, and a template has one factoring into characters and all its tokens.
Where none of the tokens names a value that is too long to be written out, the pieces of that
factoring become texts, in one way, and rendering joins what they become; else nothing is
rendered. -/
theorem render_substitutes (template : String) (entity : Fields) :
    TokensApart template.toList ∧
      ∃ ps, (∀ qs, IsFactoring template.toList qs ↔ qs = ps) ∧
        ((∀ piece ∈ ps, ¬ FindsLong entity piece) →
          ∃ texts, (∀ ts, List.Forall₂ (Becomes entity) ps ts ↔ ts = texts) ∧
            render template entity = .ok (String.ofList texts.flatten)) ∧
        ((∃ piece ∈ ps, FindsLong entity piece) →
          render template entity = .error .tooManyDigits) := by
  refine ⟨tokensApart template.toList, pieces template, isFactoring_iff template.toList,
    fun short => ?_, render_of_readsLong⟩
  obtain ⟨texts, given, rendered⟩ := exists_texts fun ⟨piece, mem, long⟩ => short piece mem long
  refine ⟨texts, fun ts => ?_, rendered⟩
  have same : Becomes entity = fun piece cs => piece.render entity = .ok cs :=
    funext fun piece => funext fun cs => propext becomes_iff
  rw [same, ← mapM_eq_ok_iff, given]
  exact ⟨fun h => (Except.ok.inj h).symm, fun h => h ▸ rfl⟩

end Template
end RecordFlow
