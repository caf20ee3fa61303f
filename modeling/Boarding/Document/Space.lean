/-!
The space that may stand between the marks of a document: the blank, the tab, the line feed and
the carriage return. This class is smaller than that of the blanks around a typed text.

* `skipSpace_append`: skipping passes over a run of space and stops where it ends.
-/

namespace Boarding.Document

/-- Whether a character is space between marks. -/
def isSpace (c : Char) : Bool :=
  c == ' ' || c == '\t' || c == '\n' || c == '\r'

/-- The text behind the space at its front. -/
def skipSpace (cs : List Char) : List Char :=
  cs.dropWhile isSpace

/-- A run of space. -/
def IsSpaces (cs : List Char) : Prop :=
  ∀ c ∈ cs, isSpace c = true

instance (cs : List Char) : Decidable (IsSpaces cs) :=
  decidable_of_iff (cs.all isSpace = true) List.all_eq_true

theorem isSpaces_nil : IsSpaces [] := by
  intro c hc
  cases hc

@[simp] theorem skipSpace_nil : skipSpace [] = [] := rfl

/-- Skipping stops at once at a character that is no space. -/
theorem skipSpace_cons {c : Char} (h : isSpace c = false) (cs : List Char) :
    skipSpace (c :: cs) = c :: cs := by
  simp [skipSpace, h]

/-- Skipping passes over a run of space. -/
theorem skipSpace_append {spaces : List Char} (h : IsSpaces spaces) (cs : List Char) :
    skipSpace (spaces ++ cs) = skipSpace cs :=
  List.dropWhile_append_of_pos h

/-- Skipping never adds text. -/
theorem length_skipSpace_le (cs : List Char) : (skipSpace cs).length ≤ cs.length :=
  (List.dropWhile_sublist isSpace).length_le

/-- A text is what skipping leaves behind a run of space. -/
theorem exists_spaces (cs : List Char) : ∃ spaces, IsSpaces spaces ∧ cs = spaces ++ skipSpace cs :=
  ⟨cs.takeWhile isSpace, List.all_eq_true.mp List.all_takeWhile,
    List.takeWhile_append_dropWhile.symm⟩

end Boarding.Document
