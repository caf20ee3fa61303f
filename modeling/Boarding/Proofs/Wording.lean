import Boarding.Code
import Boarding.Text.Blank

/-!
The rules for typed texts, said without running a check.

`whiteSpace` names every character that counts as padding, `IsCore s t` says that `t` is `s` without
the padding around it, and `ThreeLetters` and `TwoToEight` give the two codes by the ranges of their
characters. None of them mentions `trim` or a table; the lemmas below tie them to what runs:

* `Text.isBlank_iff`: the ranges of the table hold the listed characters and no others.
* `Text.isCore_iff`: every text has exactly one core, and it is what trimming leaves.
* `isAirportCode_iff_threeLetters`, `isFlightNumber_iff_twoToEight`: the checks of the codes.
-/

namespace Boarding.Text

/-! ### White space -/

/-- The characters with the Unicode property White_Space, one by one. -/
def whiteSpace : List Char :=
  ['\t', '\n', '\x0b', '\x0c', '\r', ' ', '\u0085', '\u00a0', '\u1680', '\u2000', '\u2001',
    '\u2002', '\u2003', '\u2004', '\u2005', '\u2006', '\u2007', '\u2008', '\u2009', '\u200a',
    '\u2028', '\u2029', '\u202f', '\u205f', '\u3000']

/-- Nothing but white space. The empty text is blank too. -/
def Blank (s : String) : Prop := ∀ c ∈ s.toList, c ∈ whiteSpace

/-- Neither the first nor the last character is white space. -/
structure Bare (s : String) : Prop where
  front : ∀ c ∈ s.toList.head?, c ∉ whiteSpace
  back : ∀ c ∈ s.toList.getLast?, c ∉ whiteSpace

/-- `t` is what stands in `s` between white space at the front and white space at the back, and
neither end of `t` is white space itself. -/
def IsCore (s t : String) : Prop :=
  Bare t ∧ ∃ lead trail : String, Blank lead ∧ Blank trail ∧ s = lead ++ t ++ trail

theorem isBlank_iff {c : Char} : isBlank c = true ↔ c ∈ whiteSpace := by
  -- Compare code points: both sides become statements about one number.
  have hmap : c ∈ whiteSpace ↔ c.toNat ∈ whiteSpace.map Char.toNat := by
    constructor
    · exact List.mem_map_of_mem
    · intro h
      obtain ⟨d, hd, heq⟩ := List.mem_map.mp h
      rwa [← Char.toNat_inj.mp heq]
  rw [hmap, isBlank, Table.contains_iff]
  simp only [blanks, whiteSpace, List.map_cons, List.map_nil, List.mem_cons, List.not_mem_nil,
    or_false, exists_eq_or_imp, exists_eq_left, Char.reduceToNat]
  omega

theorem isBlank_eq_false_iff {c : Char} : isBlank c = false ↔ c ∉ whiteSpace := by
  rw [← isBlank_iff, Bool.not_eq_true]

theorem bare_iff_unpadded {s : String} : Bare s ↔ Unpadded s.toList := by
  simp only [Unpadded, isBlank_eq_false_iff]
  exact ⟨fun h => ⟨h.front, h.back⟩, fun h => ⟨h.1, h.2⟩⟩

theorem blank_iff_trim_eq {s : String} : Blank s ↔ trim s = "" := by
  rw [← String.toList_inj, toList_trim, String.toList_empty, core_eq_nil_iff]
  simp only [Blank, isBlank_iff]

instance (s : String) : Decidable (Blank s) :=
  decidable_of_iff (trim s = "") blank_iff_trim_eq.symm

/-! ### The core of a text -/

/-- Padding more at either end leaves the core as it is. -/
theorem core_append_of_blank {lead trail : List Char} (hlead : ∀ c ∈ lead, isBlank c = true)
    (htrail : ∀ c ∈ trail, isBlank c = true) (cs : List Char) :
    core (lead ++ cs ++ trail) = core cs := by
  have hfront : dropLeading (lead ++ cs ++ trail) = dropLeading (cs ++ trail) := by
    rw [List.append_assoc]
    exact List.dropWhile_append_of_pos hlead
  have hback : ∀ ds : List Char, dropTrailing (ds ++ trail) = dropTrailing ds := by
    intro ds
    have hrev : ∀ c ∈ trail.reverse, isBlank c = true :=
      fun c hc => htrail c (List.mem_reverse.mp hc)
    rw [dropTrailing, List.reverse_append, List.dropWhile_append_of_pos hrev, dropTrailing]
  rw [core, hfront]
  by_cases hall : ∀ c ∈ cs, isBlank c = true
  · have hcs : core cs = [] := core_eq_nil_iff.mpr hall
    have hboth : core (cs ++ trail) = [] := by
      apply core_eq_nil_iff.mpr
      intro c hc
      rcases List.mem_append.mp hc with h | h
      · exact hall c h
      · exact htrail c h
    rw [hcs, ← hboth, core]
  · -- Some character of `cs` is kept, so what is dropped at the front lies inside `cs`.
    have hkept : dropLeading (cs ++ trail) = dropLeading cs ++ trail := by
      have hne : (dropLeading cs).isEmpty = false := by
        rw [Bool.eq_false_iff, ne_eq, List.isEmpty_iff]
        intro hnil
        obtain ⟨lead', hlead', h⟩ := exists_leading cs
        rw [hnil, List.append_nil] at h
        exact hall (h ▸ hlead')
      rw [dropLeading] at hne
      rw [dropLeading, List.dropWhile_append, hne]
      rfl
    rw [hkept, hback, core]

theorem isCore_trim (s : String) : IsCore s (trim s) := by
  refine ⟨bare_iff_unpadded.mpr ?_, ?_⟩
  · rw [toList_trim]
    exact unpadded_core s.toList
  · obtain ⟨lead, trail, hlead, htrail, h⟩ := exists_padding s.toList
    refine ⟨String.ofList lead, String.ofList trail, ?_, ?_, ?_⟩
    · intro c hc
      rw [String.toList_ofList] at hc
      exact isBlank_iff.mp (hlead c hc)
    · intro c hc
      rw [String.toList_ofList] at hc
      exact isBlank_iff.mp (htrail c hc)
    · rw [← String.toList_inj]
      simpa using h

/-- **A text has exactly one core**, and trimming finds it. -/
theorem isCore_iff {s t : String} : IsCore s t ↔ t = trim s := by
  constructor
  · rintro ⟨hbare, lead, trail, hlead, htrail, rfl⟩
    have hcore : core t.toList = t.toList :=
      core_eq_self_iff.mpr (bare_iff_unpadded.mp hbare)
    rw [← String.toList_inj, toList_trim, String.toList_append, String.toList_append,
      core_append_of_blank (fun c hc => isBlank_iff.mpr (hlead c hc))
        (fun c hc => isBlank_iff.mpr (htrail c hc)), hcore]
  · rintro rfl
    exact isCore_trim s

theorem bare_iff_trim_eq {s : String} : Bare s ↔ trim s = s := by
  rw [bare_iff_unpadded, ← core_eq_self_iff, ← String.toList_inj, toList_trim]

end Boarding.Text

namespace Boarding

/-! ### Codes -/

/-- A letter of ASCII. -/
def IsLetter (c : Char) : Prop := ('A' ≤ c ∧ c ≤ 'Z') ∨ ('a' ≤ c ∧ c ≤ 'z')

/-- A digit of ASCII. -/
def IsDigit (c : Char) : Prop := '0' ≤ c ∧ c ≤ '9'

instance (c : Char) : Decidable (IsDigit c) :=
  inferInstanceAs (Decidable ('0' ≤ c ∧ c ≤ '9'))

/-- Exactly three letters. -/
structure ThreeLetters (s : String) : Prop where
  length : s.length = 3
  letters : ∀ c ∈ s.toList, IsLetter c

/-- Two to eight letters or digits. -/
structure TwoToEight (s : String) : Prop where
  least : 2 ≤ s.length
  most : s.length ≤ 8
  marks : ∀ c ∈ s.toList, IsLetter c ∨ IsDigit c

theorem isAlpha_iff {c : Char} : c.isAlpha = true ↔ IsLetter c := by
  have hupper : c.isUpper = true ↔ 'A' ≤ c ∧ c ≤ 'Z' := decide_eq_true_iff
  have hlower : c.isLower = true ↔ 'a' ≤ c ∧ c ≤ 'z' := by
    show (decide ('a' ≤ c) && decide (c ≤ 'z')) = true ↔ _
    rw [Bool.and_eq_true, decide_eq_true_iff, decide_eq_true_iff]
  show (c.isUpper || c.isLower) = true ↔ _
  rw [Bool.or_eq_true, hupper, hlower, IsLetter]

theorem isDigit_iff {c : Char} : c.isDigit = true ↔ IsDigit c := by
  show (decide ('0' ≤ c) && decide (c ≤ '9')) = true ↔ _
  rw [Bool.and_eq_true, decide_eq_true_iff, decide_eq_true_iff, IsDigit]

theorem isAlphanum_iff {c : Char} : c.isAlphanum = true ↔ IsLetter c ∨ IsDigit c := by
  show (c.isAlpha || c.isDigit) = true ↔ _
  rw [Bool.or_eq_true, isAlpha_iff, isDigit_iff]

theorem isAirportCode_iff_threeLetters {s : String} :
    isAirportCode s = true ↔ ThreeLetters s := by
  rw [isAirportCode_iff]
  simp only [isAlpha_iff]
  exact ⟨fun h => ⟨h.1, h.2⟩, fun h => ⟨h.length, h.letters⟩⟩

theorem isFlightNumber_iff_twoToEight {s : String} :
    isFlightNumber s = true ↔ TwoToEight s := by
  rw [isFlightNumber_iff]
  simp only [isAlphanum_iff]
  exact ⟨fun h => ⟨h.1.1, h.1.2, h.2⟩, fun h => ⟨⟨h.least, h.most⟩, h.marks⟩⟩

end Boarding
