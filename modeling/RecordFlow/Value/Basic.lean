/-
# Values — what a field of a record can hold

A value is null, a truth value, a number of one of three kinds, a text, a
list, a tuple or a record of named fields.  Fields keep the order in which
they were first written; the order shows only in texts.
-/
import RecordFlow.Number.Decimal

namespace RecordFlow

/-- A field value. -/
inductive Value where
  | null
  | bool (b : Bool)
  | int (n : Int)
  | float (x : Binary64)
  | decimal (d : Decimal)
  | text (s : String)
  | list (items : List Value)
  | tuple (items : List Value)
  | record (fields : List (String × Value))
deriving Repr, Inhabited

/-- Named fields, each name at most once, in the order of their first writing. -/
abbrev Fields := List (String × Value)

namespace Fields

/-- The value of a field, if the field is there. -/
def find? (fields : Fields) (name : String) : Option Value := fields.lookup name

/-- The value of a field, null when the field is missing. -/
def get (fields : Fields) (name : String) : Value := (fields.find? name).getD .null

/-- Fields with one of them written: in its old place if it was there, else at the end. -/
def set (fields : Fields) (name : String) (value : Value) : Fields :=
  match fields with
  | [] => [(name, value)]
  | (n, v) :: rest => if n = name then (n, value) :: rest else (n, v) :: set rest name value

theorem find?_set (fields : Fields) (name : String) (value : Value) (other : String) :
    (fields.set name value).find? other =
      if other = name then some value else fields.find? other := by
  have ne {a b : String} (h : ¬a = b) : (a == b) = false := by simpa using h
  induction fields with
  | nil => by_cases h : other = name <;> simp [set, find?, List.lookup_cons, h, ne]
  | cons p rest ih =>
    obtain ⟨n, v⟩ := p
    simp only [find?] at ih
    by_cases hn : n = name
    · subst hn
      by_cases h : other = n <;> simp [set, find?, List.lookup_cons, h, ne]
    · by_cases h : other = n
      · subst h; simp [set, find?, hn]
      · simp [set, find?, hn, List.lookup_cons, h, ih, ne]

variable {fields : Fields} {name : String} {value : Value}

theorem find?_append_of_fresh {front : Fields} (fresh : name ∉ front.map Prod.fst) :
    find? (front ++ (name, value) :: fields) name = some value := by
  have none : front.lookup name = none := by
    rw [List.lookup_eq_none_iff]
    intro f mem
    have other : name ≠ f.1 := fun same => fresh (same ▸ List.mem_map_of_mem mem)
    simpa using other
  rw [find?, List.lookup_append, none, Option.none_or, List.lookup_cons_self]

theorem find?_of_mem (once : (fields.map Prod.fst).Nodup) (mem : (name, value) ∈ fields) :
    fields.find? name = some value := by
  obtain ⟨before, after, rfl⟩ := List.append_of_mem mem
  rw [List.map_append, List.nodup_append] at once
  exact find?_append_of_fresh fun here => once.2.2 name here name (by simp) rfl

theorem mem_of_find? (found : fields.find? name = some value) : (name, value) ∈ fields := by
  obtain ⟨before, after, rfl, -⟩ := List.lookup_eq_some_iff.mp found
  simp

end Fields

namespace Value

/-- Whether a value counts as something where only its presence matters: null, false, zero
and what is empty do not. -/
def isTruthy : Value → Bool
  | null => false
  | bool b => b
  | int n => n ≠ 0
  | float x => !x.isZero
  | decimal (.finite _ c _) => c ≠ 0
  | decimal _ => true
  | text s => s ≠ ""
  | list xs => !xs.isEmpty
  | tuple xs => !xs.isEmpty
  | record fs => !fs.isEmpty

/-- The fields of a record. -/
def fields? : Value → Option Fields
  | record fs => some fs
  | _ => none

/-- A field of a record; any other value has no fields. -/
def field (v : Value) (name : String) : Value :=
  match v with
  | record fs => Fields.get fs name
  | _ => null

/-- The items of a list or of a tuple. -/
def items? : Value → Option (List Value)
  | list xs => some xs
  | tuple xs => some xs
  | _ => none

/-- Whether a value is a truth value. -/
def isBool : Value → Bool
  | bool _ => true
  | _ => false

/-- Whether a value is null or the empty text. -/
def isBlank : Value → Bool
  | null => true
  | text s => s = ""
  | _ => false

/-- The value of what may be missing, null when it is. -/
def ofOption {α : Type} (f : α → Value) : Option α → Value
  | some a => f a
  | none => null

/-- A text, or null where there is none. -/
def ofText? : Option String → Value := ofOption text

end Value
end RecordFlow
