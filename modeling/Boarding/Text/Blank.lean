import Boarding.Text.Table

/-!
Blank characters and the core of a text.

A text is typed with padding around it that carries no meaning. `core` is what is left when the
padding is taken off at both ends; blanks between two other characters stay. The class of blanks
is the Unicode property White_Space, so characters that only look empty (zero-width space, word
joiner, byte order mark) are not blanks and are kept.

* `core_eq_nil_iff`: the core is empty exactly when every character is blank.
* `exists_padding`: a text is its core between two runs of blanks.
* `core_eq_self_iff`: a text is its own core exactly when no blank stands at either end.
-/

namespace Boarding.Text

/-- The code points with the Unicode property White_Space. -/
def blanks : Table :=
  [(0x0009, 0x000D), (0x0020, 0x0020), (0x0085, 0x0085), (0x00A0, 0x00A0), (0x1680, 0x1680),
    (0x2000, 0x200A), (0x2028, 0x2029), (0x202F, 0x202F), (0x205F, 0x205F), (0x3000, 0x3000)]

/-- Whether a character is blank. -/
def isBlank (c : Char) : Bool :=
  blanks.contains c

/-- Takes the blanks off the front. -/
def dropLeading (cs : List Char) : List Char :=
  cs.dropWhile isBlank

/-- Takes the blanks off the back. -/
def dropTrailing (cs : List Char) : List Char :=
  (cs.reverse.dropWhile isBlank).reverse

/-- The characters between the padding at the front and the padding at the back. -/
def core (cs : List Char) : List Char :=
  dropTrailing (dropLeading cs)

/-- A text without its padding. -/
def trim (s : String) : String :=
  String.ofList (core s.toList)

/-- Padded at neither end: the first and the last character, if there are any, are not blank. -/
def Unpadded (cs : List Char) : Prop :=
  (∀ c ∈ cs.head?, isBlank c = false) ∧ (∀ c ∈ cs.getLast?, isBlank c = false)

@[simp] theorem toList_trim (s : String) : (trim s).toList = core s.toList :=
  String.toList_ofList

/-! ### One end at a time -/

/-- What is taken off the front is a run of blanks. -/
theorem exists_leading (cs : List Char) :
    ∃ lead, (∀ c ∈ lead, isBlank c = true) ∧ cs = lead ++ dropLeading cs :=
  ⟨cs.takeWhile isBlank, List.all_eq_true.mp List.all_takeWhile,
    List.takeWhile_append_dropWhile.symm⟩

/-- What is taken off the back is a run of blanks. -/
theorem exists_trailing (cs : List Char) :
    ∃ trail, (∀ c ∈ trail, isBlank c = true) ∧ cs = dropTrailing cs ++ trail := by
  obtain ⟨lead, hlead, h⟩ := exists_leading cs.reverse
  refine ⟨lead.reverse, fun c hc => hlead c (List.mem_reverse.mp hc), ?_⟩
  have := congrArg List.reverse h
  simpa [dropTrailing, dropLeading] using this

/-- After the padding at the front comes a character that is not blank, or nothing. -/
theorem head?_dropLeading (cs : List Char) :
    ∀ c ∈ (dropLeading cs).head?, isBlank c = false := by
  intro c hc
  have := List.head?_dropWhile_not isBlank cs
  rw [Option.mem_def, dropLeading] at hc
  simpa [hc] using this

/-- Before the padding at the back comes a character that is not blank, or nothing. -/
theorem getLast?_dropTrailing (cs : List Char) :
    ∀ c ∈ (dropTrailing cs).getLast?, isBlank c = false := by
  rw [dropTrailing, List.getLast?_reverse]
  exact head?_dropLeading cs.reverse

/-- A text that does not start with a blank keeps its front. -/
theorem dropLeading_eq_self {cs : List Char} (h : ∀ c ∈ cs.head?, isBlank c = false) :
    dropLeading cs = cs := by
  cases cs with
  | nil => rfl
  | cons c cs =>
    have hc : isBlank c = false := h c rfl
    simp [dropLeading, hc]

/-- A text that does not end with a blank keeps its back. -/
theorem dropTrailing_eq_self {cs : List Char} (h : ∀ c ∈ cs.getLast?, isBlank c = false) :
    dropTrailing cs = cs := by
  have hrev : dropLeading cs.reverse = cs.reverse :=
    dropLeading_eq_self (by rwa [List.head?_reverse])
  simpa [dropTrailing, dropLeading] using congrArg List.reverse hrev

/-! ### Both ends -/

/-- A text is its core between two runs of blanks. -/
theorem exists_padding (cs : List Char) :
    ∃ lead trail, (∀ c ∈ lead, isBlank c = true) ∧ (∀ c ∈ trail, isBlank c = true) ∧
      cs = lead ++ core cs ++ trail := by
  obtain ⟨lead, hlead, h₁⟩ := exists_leading cs
  obtain ⟨trail, htrail, h₂⟩ := exists_trailing (dropLeading cs)
  exact ⟨lead, trail, hlead, htrail, by rw [List.append_assoc, core, ← h₂, ← h₁]⟩

/-- The core is padded at neither end. -/
theorem unpadded_core (cs : List Char) : Unpadded (core cs) := by
  refine ⟨fun c hc => ?_, getLast?_dropTrailing _⟩
  obtain ⟨trail, -, h⟩ := exists_trailing (dropLeading cs)
  have hhead : c ∈ (dropLeading cs).head? := by
    rw [h, List.head?_append]
    rw [core, Option.mem_def] at hc
    simp [hc]
  exact head?_dropLeading cs c hhead

/-- A text is its own core exactly when it is padded at neither end. -/
theorem core_eq_self_iff {cs : List Char} : core cs = cs ↔ Unpadded cs := by
  refine ⟨fun h => h ▸ unpadded_core cs, fun h => ?_⟩
  rw [core, dropLeading_eq_self h.1, dropTrailing_eq_self h.2]

/-- Taking the padding off twice is taking it off once. -/
@[simp] theorem core_core (cs : List Char) : core (core cs) = core cs :=
  core_eq_self_iff.mpr (unpadded_core cs)

@[simp] theorem trim_trim (s : String) : trim (trim s) = trim s := by
  rw [← String.toList_inj]
  simp

/-- The core is empty exactly when every character is blank. -/
theorem core_eq_nil_iff {cs : List Char} : core cs = [] ↔ ∀ c ∈ cs, isBlank c = true := by
  constructor
  · intro h
    obtain ⟨lead, trail, hlead, htrail, hcs⟩ := exists_padding cs
    rw [h, List.append_nil] at hcs
    intro c hc
    rw [hcs, List.mem_append] at hc
    exact hc.elim (hlead c) (htrail c)
  · intro h
    have hfront : dropLeading cs = [] := by
      simpa [dropLeading] using @List.dropWhile_append_of_pos _ isBlank cs [] h
    simp [core, hfront, dropTrailing]

end Boarding.Text
