import Boarding.Document.Fault
import Boarding.Form

/-!
The texts gathered from a document: fields with their texts, in the order in which they were
read. Keys are admitted one at a time, and a complete set of entries is a form.

* `Entries.fieldFor_eq_ok_iff`: a key is admitted exactly when it names a field without a text.
-/

namespace Boarding.Document

/-- Fields with their texts, in reading order. -/
abbrev Entries := List (Field × String)

namespace Entries

/-- The text gathered for a field. -/
def text? (entries : Entries) (field : Field) : Option String :=
  entries.lookup field

/-- The field that the next entry is for, given its key. -/
def fieldFor (entries : Entries) (key : String) : Except Shape Field :=
  match Field.ofName? key with
  | none => .error (.unknownKey key)
  | some field =>
    if (entries.text? field).isSome then .error (.repeatedKey field) else .ok field

/-- The first field without a text. -/
def firstAbsent? (entries : Entries) : Option Field :=
  Field.all.find? fun field => (entries.text? field).isNone

/-- The form that the entries fill in, if they leave no field out. -/
def toForm (entries : Entries) : Except Shape Form :=
  match entries.firstAbsent? with
  | some field => .error (.absentKey field)
  | none => .ok (.ofTexts fun field => (entries.text? field).getD "")

/-- A key is admitted exactly when it names a field that has no text yet. -/
theorem fieldFor_eq_ok_iff {entries : Entries} {key : String} {field : Field} :
    entries.fieldFor key = .ok field ↔ field.name = key ∧ entries.text? field = none := by
  rw [← Field.ofName?_eq_some_iff]
  unfold fieldFor
  cases h : Field.ofName? key with
  | none => simp
  | some other =>
    cases ht : entries.text? other with
    | none =>
      simp only [ht, Option.isSome_none, Bool.false_eq_true, if_false, Except.ok.injEq,
        Option.some.injEq]
      exact ⟨fun heq => ⟨heq, heq ▸ ht⟩, fun heq => heq.1⟩
    | some text =>
      simp only [ht, Option.isSome_some, if_true, reduceCtorEq, false_iff, not_and,
        Option.some.injEq]
      rintro rfl
      simp [ht]

end Entries

end Boarding.Document
