import Boarding.Issue
import Boarding.Proofs.Wording
import Mathlib.Logic.ExistsUnique

/-!
What issuing does, against the rules for typed texts.

Every verdict is characterised on its own, so the order of the checks is part of the statements:
a missing text is reported before a code of the wrong form, and the airport before the flight.

* `issue_eq_iff_rules`: the four kinds of verdict, each with the exact condition for it.
* `issue_sound`: whatever verdict is given, its texts obey the rules (`Verdict.Sound`).
* `issue_toForm_iff`: the passes that are issued again from their own texts are the sound ones.
-/

namespace Boarding

open Text

/-! ### The first blank field -/

/-- `field` is blank, and no field that is asked for before it is. -/
def FirstBlank (form : Form) (field : Field) : Prop :=
  Blank (form.get field) ∧ ∃ before after, Field.all = before ++ field :: after ∧
    ∀ other ∈ before, ¬ Blank (form.get other)

theorem get_trimmed_eq_empty_iff {form : Form} {field : Field} :
    (form.trimmed.get field == "") = true ↔ Blank (form.get field) := by
  rw [beq_iff_eq, Form.get_trimmed, blank_iff_trim_eq]

theorem firstEmpty?_trimmed_eq_some_iff {form : Form} {field : Field} :
    form.trimmed.firstEmpty? = some field ↔ FirstBlank form field := by
  rw [Form.firstEmpty?, List.find?_eq_some_iff_append, get_trimmed_eq_empty_iff, FirstBlank]
  simp only [Bool.not_eq_true', ← Bool.not_eq_true, get_trimmed_eq_empty_iff]

theorem firstEmpty?_trimmed_eq_none_iff {form : Form} :
    form.trimmed.firstEmpty? = none ↔ ∀ field, ¬ Blank (form.get field) := by
  rw [Form.firstEmpty?, List.find?_eq_none]
  simp only [get_trimmed_eq_empty_iff]
  exact ⟨fun h field => h field (Field.mem_all field), fun h field _ => h field⟩

/-! ### Rejected codes -/

theorem issue_eq_airportCode_iff {form : Form} {text : String} :
    issue form = .rejected (.airportCode text) ↔
      form.trimmed.firstEmpty? = none ∧ isAirportCode form.trimmed.airportCode = false ∧
        text = form.trimmed.airportCode := by
  unfold issue judge
  split
  next other h => simp [h]
  next h =>
    split
    next ha => simp [h, ha, eq_comm]
    next ha => split <;> simp [ha]

theorem issue_eq_flightNumber_iff {form : Form} {text : String} :
    issue form = .rejected (.flightNumber text) ↔
      form.trimmed.firstEmpty? = none ∧ isAirportCode form.trimmed.airportCode = true ∧
        isFlightNumber form.trimmed.flightNumber = false ∧ text = form.trimmed.flightNumber := by
  unfold issue judge
  split
  next other h => simp [h]
  next h =>
    split
    next ha => simp [ha]
    next ha =>
      rw [Bool.not_eq_false] at ha
      split
      next hf => simp [h, ha, hf, eq_comm]
      next hf => simp [hf]

/-- A pass carries the cores of the typed texts exactly when it carries the trimmed form. -/
theorem forall_isCore_iff {form : Form} {pass : Pass} :
    (∀ field, IsCore (form.get field) (pass.get field)) ↔ pass = .ofForm form.trimmed := by
  constructor
  · intro h
    have hform : pass.toForm = form.trimmed := by
      apply Form.ext_get
      intro field
      rw [Form.get_trimmed]
      exact isCore_iff.mp (h field)
    rw [← hform, Pass.ofForm_toForm]
  · rintro rfl field
    rw [Pass.get_ofForm, Form.get_trimmed]
    exact isCore_trim _

/-! ### Verdicts by their rules -/

/-- **Issuing is its specification.** Every text has exactly one core. A field is reported missing
exactly when it is the first blank one; a code is rejected, with its core, exactly when no field is
blank, the codes checked before it have their form and its own core has not; and a pass is issued
exactly when there is nothing to complain about, with the core of every typed text in the place of
that text. -/
theorem issue_eq_iff_rules (form : Form) :
    (∀ s : String, ∃! t, IsCore s t) ∧
    (∀ field, issue form = .rejected (.missing field) ↔ FirstBlank form field) ∧
    (∀ text, issue form = .rejected (.airportCode text) ↔
      (∀ field, ¬ Blank (form.get field)) ∧ IsCore form.airportCode text ∧
        ¬ ThreeLetters text) ∧
    (∀ text, issue form = .rejected (.flightNumber text) ↔
      (∀ field, ¬ Blank (form.get field)) ∧
        (∃ airport, IsCore form.airportCode airport ∧ ThreeLetters airport) ∧
        IsCore form.flightNumber text ∧ ¬ TwoToEight text) ∧
    (∀ pass, issue form = .issued pass ↔
      (∀ field, ¬ Blank (form.get field)) ∧ (∀ field, IsCore (form.get field) (pass.get field)) ∧
        ThreeLetters pass.airportCode ∧ TwoToEight pass.flightNumber) := by
  have hairport : form.trimmed.airportCode = trim form.airportCode := rfl
  have hflight : form.trimmed.flightNumber = trim form.flightNumber := rfl
  refine ⟨fun s => ?_, fun field => ?_, fun text => ?_, fun text => ?_, fun pass => ?_⟩
  · exact ⟨trim s, isCore_trim s, fun t ht => isCore_iff.mp ht⟩
  · rw [issue_eq_missing_iff, firstEmpty?_trimmed_eq_some_iff]
  · rw [issue_eq_airportCode_iff, firstEmpty?_trimmed_eq_none_iff, hairport, isCore_iff,
      ← isAirportCode_iff_threeLetters, Bool.not_eq_true]
    constructor
    · rintro ⟨hblank, hcode, rfl⟩
      exact ⟨hblank, rfl, hcode⟩
    · rintro ⟨hblank, rfl, hcode⟩
      exact ⟨hblank, hcode, rfl⟩
  · rw [issue_eq_flightNumber_iff, firstEmpty?_trimmed_eq_none_iff, hairport, hflight]
    simp only [isCore_iff, exists_eq_left, ← isAirportCode_iff_threeLetters,
      ← isFlightNumber_iff_twoToEight, Bool.not_eq_true]
    constructor
    · rintro ⟨hblank, hcode, hnumber, rfl⟩
      exact ⟨hblank, hcode, rfl, hnumber⟩
    · rintro ⟨hblank, hcode, rfl, hnumber⟩
      exact ⟨hblank, hcode, hnumber, rfl⟩
  · rw [issue_eq_issued_iff, firstEmpty?_trimmed_eq_none_iff, forall_isCore_iff,
      ← isAirportCode_iff_threeLetters, ← isFlightNumber_iff_twoToEight]
    constructor
    · rintro ⟨hblank, hcode, hnumber, rfl⟩
      exact ⟨hblank, rfl, hcode, hnumber⟩
    · rintro ⟨hblank, rfl, hcode, hnumber⟩
      exact ⟨hblank, hcode, hnumber, rfl⟩

/-! ### Sound verdicts -/

/-- What every pass can be relied on for. -/
structure Pass.Sound (pass : Pass) : Prop where
  nonempty : ∀ field, pass.get field ≠ ""
  bare : ∀ field, Bare (pass.get field)
  airport : ThreeLetters pass.airportCode
  flight : TwoToEight pass.flightNumber

/-- What every rejection can be relied on for: a text at fault is there, has no padding, and fails
the check that it is blamed for. -/
def Rejection.Sound : Rejection → Prop
  | .missing _ => True
  | .airportCode text => text ≠ "" ∧ Bare text ∧ isAirportCode text = false
  | .flightNumber text => text ≠ "" ∧ Bare text ∧ isFlightNumber text = false

def Verdict.Sound : Verdict → Prop
  | .issued pass => pass.Sound
  | .rejected cause => cause.Sound

theorem trim_ne_empty_of_firstEmpty? {form : Form} (h : form.trimmed.firstEmpty? = none)
    (field : Field) : trim (form.get field) ≠ "" := by
  intro hempty
  exact firstEmpty?_trimmed_eq_none_iff.mp h field (blank_iff_trim_eq.mpr hempty)

theorem bare_trim (s : String) : Bare (trim s) :=
  bare_iff_trim_eq.mpr (trim_trim s)

/-- Every verdict is sound. -/
theorem issue_sound (form : Form) : (issue form).Sound := by
  cases hverdict : issue form with
  | issued pass =>
    obtain ⟨hfull, hcode, hnumber, rfl⟩ := issue_eq_issued_iff.mp hverdict
    refine ⟨fun field => ?_, fun field => ?_, isAirportCode_iff_threeLetters.mp hcode,
      isFlightNumber_iff_twoToEight.mp hnumber⟩
    · rw [Pass.get_ofForm, Form.get_trimmed]
      exact trim_ne_empty_of_firstEmpty? hfull field
    · rw [Pass.get_ofForm, Form.get_trimmed]
      exact bare_trim _
  | rejected cause =>
    cases cause with
    | missing field => trivial
    | airportCode text =>
      obtain ⟨hfull, hcode, rfl⟩ := issue_eq_airportCode_iff.mp hverdict
      exact ⟨trim_ne_empty_of_firstEmpty? hfull .airportCode, bare_trim _, hcode⟩
    | flightNumber text =>
      obtain ⟨hfull, -, hnumber, rfl⟩ := issue_eq_flightNumber_iff.mp hverdict
      exact ⟨trim_ne_empty_of_firstEmpty? hfull .flightNumber, bare_trim _, hnumber⟩

/-- The texts of a sound pass have no padding to take off. -/
theorem Pass.Sound.trimmed_toForm {pass : Pass} (h : pass.Sound) :
    pass.toForm.trimmed = pass.toForm := by
  apply Form.ext_get
  intro field
  rw [Form.get_trimmed]
  exact bare_iff_trim_eq.mp (h.bare field)

/-- **The sound passes are the fixed points of issuing.** -/
theorem issue_toForm_iff {pass : Pass} : issue pass.toForm = .issued pass ↔ pass.Sound := by
  constructor
  · intro h
    have hsound := issue_sound pass.toForm
    rwa [h] at hsound
  · intro h
    rw [issue_eq_issued_iff, h.trimmed_toForm]
    refine ⟨?_, isAirportCode_iff_threeLetters.mpr h.airport,
      isFlightNumber_iff_twoToEight.mpr h.flight, (Pass.ofForm_toForm pass).symm⟩
    rw [Form.firstEmpty?, List.find?_eq_none]
    intro field _ hempty
    exact h.nonempty field (beq_iff_eq.mp hempty)

theorem sound_of_issue {form : Form} {pass : Pass} (h : issue form = .issued pass) :
    pass.Sound := by
  have hsound := issue_sound form
  rwa [h] at hsound

end Boarding
