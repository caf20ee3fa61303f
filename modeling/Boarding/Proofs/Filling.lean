import Boarding.Proofs.Issuing
import Mathlib.Data.List.Perm.Subperm
import Mathlib.Tactic.MkIffOfInductiveProp

/-!
Filling in a form: what can be checked beforehand, and how a rejected form is put right.

`Suits field text` says of a typed text that it will do for a field. A pass is issued exactly when
every text suits, and a rejection always names a field whose text does not. The two checks of codes
can be made before the form is handed in; they look at the text as it was typed and so are stricter
than issuing by the padding, and by nothing else. When a form is rejected and the reported text is
replaced by one that suits, that field is settled: no later correction touches it.

* `isAirportCode_iff_trim`, `isFlightNumber_iff_trim`: a code as typed is a code without padding.
* `codes_prechecked_iff`: checking the codes beforehand against handing in the form.
* `Corrections.settled`: a field whose text suits is never reported again.
* `corrections_reach_pass`: correcting what is reported comes to a pass, in four rounds at most.
-/

namespace Boarding

open Text

/-! ### Texts that will do -/

/-- A text that will do for a field: it is there, and without its padding it passes the check that
the field has. -/
@[mk_iff]
structure Suits (field : Field) (text : String) : Prop where
  present : ¬ Blank text
  airport : field = .airportCode → isAirportCode (trim text) = true
  flight : field = .flightNumber → isFlightNumber (trim text) = true

instance (field : Field) (text : String) : Decidable (Suits field text) :=
  decidable_of_iff _ (suits_iff field text).symm

section

variable {form : Form}

/-- A pass is issued exactly when every text suits. -/
theorem issue_eq_issued_iff_suits {pass : Pass} :
    issue form = .issued pass ↔
      (∀ field, Suits field (form.get field)) ∧ pass = .ofForm form.trimmed := by
  rw [issue_eq_issued_iff, firstEmpty?_trimmed_eq_none_iff]
  constructor
  · rintro ⟨hfull, hairport, hflight, rfl⟩
    refine ⟨fun field => ⟨hfull field, ?_, ?_⟩, rfl⟩
    · rintro rfl
      exact hairport
    · rintro rfl
      exact hflight
  · rintro ⟨hsuits, rfl⟩
    exact ⟨fun field => (hsuits field).present, (hsuits .airportCode).airport rfl,
      (hsuits .flightNumber).flight rfl, rfl⟩

theorem exists_issued_iff_suits :
    (∃ pass, issue form = .issued pass) ↔ ∀ field, Suits field (form.get field) := by
  simp only [issue_eq_issued_iff_suits, exists_and_left, exists_eq, and_true]

/-- The reported field is one whose text does not suit. -/
theorem not_suits_of_rejected {cause : Rejection} (h : issue form = .rejected cause) :
    ¬ Suits cause.field (form.get cause.field) := by
  intro hsuits
  cases cause with
  | missing field =>
    have hblank := firstEmpty?_trimmed_eq_some_iff.mp (issue_eq_missing_iff.mp h)
    exact hsuits.present hblank.1
  | airportCode text =>
    obtain ⟨-, hcode, -⟩ := issue_eq_airportCode_iff.mp h
    exact Bool.false_ne_true (hcode.symm.trans (hsuits.airport rfl))
  | flightNumber text =>
    obtain ⟨-, -, hcode, -⟩ := issue_eq_flightNumber_iff.mp h
    exact Bool.false_ne_true (hcode.symm.trans (hsuits.flight rfl))

/-! ### Checking beforehand -/

/-- Letters and digits are no white space, so nothing made of them has padding. -/
theorem bare_of_isAlphanum {s : String} (h : ∀ c ∈ s.toList, c.isAlphanum = true) : Bare s := by
  have hmarks : whiteSpace.any Char.isAlphanum = false := by decide
  have hnot : ∀ c ∈ s.toList, c ∉ whiteSpace := by
    intro c hc hspace
    exact List.any_eq_false.mp hmarks c hspace (h c hc)
  exact ⟨fun c hc => hnot c (List.mem_of_mem_head? hc),
    fun c hc => hnot c (List.mem_of_getLast? hc)⟩

/-- A check that accepts letters and digits only accepts a text as typed exactly when it accepts the
text without padding and there is no padding. -/
theorem check_iff_trim {check : String → Bool}
    (hcheck : ∀ s, check s = true → ∀ c ∈ s.toList, c.isAlphanum = true) {s : String} :
    check s = true ↔ check (trim s) = true ∧ Bare s := by
  constructor
  · intro h
    have hbare := bare_of_isAlphanum (hcheck s h)
    rw [bare_iff_trim_eq.mp hbare]
    exact ⟨h, hbare⟩
  · rintro ⟨h, hbare⟩
    rwa [bare_iff_trim_eq.mp hbare] at h

theorem isAirportCode_iff_trim {s : String} :
    isAirportCode s = true ↔ isAirportCode (trim s) = true ∧ Bare s := by
  apply check_iff_trim
  intro t ht c hc
  exact isAlphanum_iff.mpr (.inl ((isAirportCode_iff_threeLetters.mp ht).letters c hc))

theorem isFlightNumber_iff_trim {s : String} :
    isFlightNumber s = true ↔ isFlightNumber (trim s) = true ∧ Bare s := by
  apply check_iff_trim
  intro t ht c hc
  exact isAlphanum_iff.mpr ((isFlightNumber_iff_twoToEight.mp ht).marks c hc)

theorem not_blank_of_check {check : String → Bool} (hempty : check "" = false) {s : String}
    (h : check (trim s) = true) : ¬ Blank s := by
  intro hblank
  rw [blank_iff_trim_eq.mp hblank, hempty] at h
  exact Bool.false_ne_true h

/-- With a name and a gate, it is the two codes that decide. -/
theorem exists_issued_iff_codes (hname : ¬ Blank form.passengerName)
    (hgate : ¬ Blank form.gateNumber) :
    (∃ pass, issue form = .issued pass) ↔
      isAirportCode (trim form.airportCode) = true ∧
        isFlightNumber (trim form.flightNumber) = true := by
  rw [exists_issued_iff_suits]
  constructor
  · intro hsuits
    exact ⟨(hsuits .airportCode).airport rfl, (hsuits .flightNumber).flight rfl⟩
  · rintro ⟨hairport, hflight⟩ field
    cases field with
    | passengerName => exact ⟨hname, by rintro ⟨⟩, by rintro ⟨⟩⟩
    | airportCode =>
      exact ⟨not_blank_of_check (by decide) hairport, fun _ => hairport, by rintro ⟨⟩⟩
    | flightNumber =>
      exact ⟨not_blank_of_check (by decide) hflight, by rintro ⟨⟩, fun _ => hflight⟩
    | gateNumber => exact ⟨hgate, by rintro ⟨⟩, by rintro ⟨⟩⟩

end

/-- **Checking the codes beforehand agrees with handing in the form, up to padding.** Let the name
and the gate be there. Both codes pass their checks as typed exactly when a pass is issued that
carries them as typed. And a pass is issued although a code fails its check as typed exactly when
both pass without their padding and one of them has padding. -/
theorem codes_prechecked_iff (form : Form) (hname : ¬ Blank form.passengerName)
    (hgate : ¬ Blank form.gateNumber) :
    (isAirportCode form.airportCode = true ∧ isFlightNumber form.flightNumber = true ↔
      ∃ pass, issue form = .issued pass ∧ pass.airportCode = form.airportCode ∧
        pass.flightNumber = form.flightNumber) ∧
    ((∃ pass, issue form = .issued pass) ∧
        (isAirportCode form.airportCode = false ∨ isFlightNumber form.flightNumber = false) ↔
      isAirportCode (trim form.airportCode) = true ∧
        isFlightNumber (trim form.flightNumber) = true ∧
          (¬ Bare form.airportCode ∨ ¬ Bare form.flightNumber)) := by
  have hissued := exists_issued_iff_codes hname hgate
  constructor
  · rw [isAirportCode_iff_trim, isFlightNumber_iff_trim]
    constructor
    · rintro ⟨⟨hairport, hbare⟩, hflight, hbare'⟩
      obtain ⟨pass, hpass⟩ := hissued.mpr ⟨hairport, hflight⟩
      obtain ⟨-, rfl⟩ := issue_eq_issued_iff_suits.mp hpass
      exact ⟨_, hpass, bare_iff_trim_eq.mp hbare, bare_iff_trim_eq.mp hbare'⟩
    · rintro ⟨pass, hpass, hairport, hflight⟩
      obtain ⟨hcode, hcode'⟩ := hissued.mp ⟨pass, hpass⟩
      obtain ⟨-, rfl⟩ := issue_eq_issued_iff_suits.mp hpass
      exact ⟨⟨hcode, bare_iff_trim_eq.mpr hairport⟩, hcode', bare_iff_trim_eq.mpr hflight⟩
  · rw [hissued, and_assoc, ← Bool.not_eq_true, ← Bool.not_eq_true,
      @isAirportCode_iff_trim form.airportCode, @isFlightNumber_iff_trim form.flightNumber]
    constructor
    · rintro ⟨hairport, hflight, hfails⟩
      refine ⟨hairport, hflight, hfails.imp ?_ ?_⟩
      · exact fun hfails hbare => hfails ⟨hairport, hbare⟩
      · exact fun hfails hbare => hfails ⟨hflight, hbare⟩
    · rintro ⟨hairport, hflight, hpadded⟩
      exact ⟨hairport, hflight, hpadded.imp (mt And.right) (mt And.right)⟩

theorem codes_prechecked_iff_padded :
    isFlightNumber "\u2003QF1" = false ∧
      ∃ pass, issue ⟨"Ann", "ADL", "\u2003QF1", "2"⟩ = .issued pass := by
  have hpadded : ¬ Bare "\u2003QF1" := fun h => absurd (bare_iff_trim_eq.mp h) (by decide)
  have h := ((codes_prechecked_iff ⟨"Ann", "ADL", "\u2003QF1", "2"⟩ (by decide) (by decide)).2).mpr
    ⟨by decide, by decide, .inr hpadded⟩
  exact ⟨by decide, h.1⟩

/-! ### Correcting what is reported -/

/-- A run of corrections. In each round the form is handed in and rejected, and a text that suits is
typed for the reported field and for nothing else; the list tells what was typed. -/
inductive Corrections : Form → List (Field × String) → Form → Prop where
  | done (form : Form) : Corrections form [] form
  | round {form final : Form} {cause : Rejection} {text : String} {fixes : List (Field × String)}
      (hreported : issue form = .rejected cause) (hsuits : Suits cause.field text)
      (hrest : Corrections (form.set cause.field text) fixes final) :
      Corrections form ((cause.field, text) :: fixes) final

/-- Whatever texts that suit are typed for the reported fields, a pass is issued after at most this
many replacements. -/
def IssuedWithin : Nat → Form → Prop
  | 0, form => ∃ pass, issue form = .issued pass
  | rounds + 1, form => ∀ cause, issue form = .rejected cause →
      ∀ text, Suits cause.field text → IssuedWithin rounds (form.set cause.field text)

/-- Typing a text that suits spoils no field. -/
theorem suits_get_set {form : Form} {field other : Field} {text : String}
    (hother : other ≠ field → Suits other (form.get other)) (htext : Suits field text) :
    Suits other ((form.set field text).get other) := by
  rw [Form.get_set]
  split
  next heq => exact heq ▸ htext
  next hne => exact hother hne

/-- A pass is issued within as many replacements as there are fields left to settle. -/
theorem issuedWithin_length {unsettled : List Field} {form : Form}
    (h : ∀ field ∉ unsettled, Suits field (form.get field)) :
    IssuedWithin unsettled.length form := by
  induction hlength : unsettled.length generalizing unsettled form with
  | zero =>
    rw [List.length_eq_zero_iff.mp hlength] at h
    exact exists_issued_iff_suits.mpr fun field => h field List.not_mem_nil
  | succ rounds ih =>
    intro cause hcause text htext
    -- The reported field is one of the unsettled, and typing settles it and unsettles no other.
    have hunsettled : cause.field ∈ unsettled := by
      by_contra hsettled
      exact not_suits_of_rejected hcause (h cause.field hsettled)
    have hshorter : (unsettled.erase cause.field).length = rounds := by
      rw [List.length_erase_of_mem hunsettled, hlength, Nat.add_sub_cancel]
    refine ih (fun field hfield => suits_get_set (fun hne => h field ?_) htext) hshorter
    exact fun hmem => hfield ((List.mem_erase_of_ne hne).mpr hmem)

namespace Corrections

variable {start final : Form} {fixes : List (Field × String)} {field : Field}

/-- A field whose text suits is never reported, and its text goes on suiting. -/
theorem settled (h : Corrections start fixes final) (hsuits : Suits field (start.get field)) :
    field ∉ fixes.map Prod.fst ∧ Suits field (final.get field) := by
  induction h with
  | done form => exact ⟨List.not_mem_nil, hsuits⟩
  | @round form final cause text fixes hreported htext hrest ih =>
    obtain ⟨hlater, hfinal⟩ := ih (suits_get_set (fun _ => hsuits) htext)
    refine ⟨?_, hfinal⟩
    rw [List.map_cons, List.mem_cons, not_or]
    refine ⟨?_, hlater⟩
    rintro rfl
    exact not_suits_of_rejected hreported hsuits

/-- A field for which a text that suits has just been typed is settled. -/
theorem settled_of_set {form : Form} {text : String} (htext : Suits field text)
    (h : Corrections (form.set field text) fixes final) :
    field ∉ fixes.map Prod.fst ∧ Suits field (final.get field) :=
  h.settled (suits_get_set (fun hne => absurd rfl hne) htext)

theorem suits_of_mem (h : Corrections start fixes final) (hmem : field ∈ fixes.map Prod.fst) :
    Suits field (final.get field) := by
  induction h with
  | done form => cases hmem
  | round hreported htext hrest ih =>
    rcases List.mem_cons.mp hmem with rfl | hlater
    · exact (settled_of_set htext hrest).2
    · exact ih hlater

theorem nodup (h : Corrections start fixes final) : (fixes.map Prod.fst).Nodup := by
  induction h with
  | done form => exact List.nodup_nil
  | round hreported htext hrest ih =>
    rw [List.map_cons, List.nodup_cons]
    exact ⟨(settled_of_set htext hrest).1, ih⟩

/-- A field that was never reported still shows what was typed at the start. -/
theorem get_of_not_mem (h : Corrections start fixes final) (hfield : field ∉ fixes.map Prod.fst) :
    final.get field = start.get field := by
  induction h with
  | done form => rfl
  | round hreported htext hrest ih =>
    rw [List.map_cons, List.mem_cons, not_or] at hfield
    rw [ih hfield.2, Form.get_set, if_neg hfield.1]

/-- A field that was reported shows what was typed then. -/
theorem get_of_mem {text : String} (h : Corrections start fixes final)
    (hmem : (field, text) ∈ fixes) : final.get field = text := by
  induction h with
  | done form => cases hmem
  | round hreported htext hrest ih =>
    rcases List.mem_cons.mp hmem with heq | hlater
    · cases heq
      rw [hrest.get_of_not_mem (settled_of_set htext hrest).1, Form.get_set, if_pos rfl]
    · exact ih hlater

end Corrections

/-- **Correcting what is reported always makes progress.** There is a text that suits every field,
and whichever texts are chosen, a pass is issued after at most four replacements. In every run of
corrections no field is reported twice, also not by the verdict at its end; and the pass at the end
carries, without padding, what was typed for each corrected field and, for each field that was never
reported, what stood there at the start. -/
theorem corrections_reach_pass (start : Form) :
    (∃ text, ∀ field, Suits field text) ∧ IssuedWithin 4 start ∧
    ∀ fixes final, Corrections start fixes final →
      (fixes.map Prod.fst).Nodup ∧ fixes.length ≤ 4 ∧
      (∀ cause, issue final = .rejected cause → cause.field ∉ fixes.map Prod.fst) ∧
      (∀ pass, issue final = .issued pass →
        (∀ field text, (field, text) ∈ fixes → pass.get field = trim text) ∧
        ∀ field ∉ fixes.map Prod.fst, pass.get field = trim (start.get field)) := by
  refine ⟨⟨"ADL", fun field => by cases field <;> decide⟩, ?_, ?_⟩
  · exact @issuedWithin_length Field.all start fun field hfield =>
      absurd (Field.mem_all field) hfield
  · intro fixes final h
    refine ⟨h.nodup, ?_, fun cause hcause hmem => ?_, fun pass hpass => ?_⟩
    · have hsubperm := h.nodup.subperm fun field _ => Field.mem_all field
      rw [← List.length_map Prod.fst]
      exact hsubperm.length_le
    · exact not_suits_of_rejected hcause (h.suits_of_mem hmem)
    · obtain ⟨-, rfl⟩ := issue_eq_issued_iff_suits.mp hpass
      simp only [Pass.get_ofForm, Form.get_trimmed]
      constructor
      · intro field text hmem
        rw [h.get_of_mem hmem]
      · intro field hfield
        rw [h.get_of_not_mem hfield]

/-- Nothing for the name, a city for the airport, and a blank for the flight. -/
def hastyForm : Form := ⟨"", "Adelaide", "\u3000", " Gate 1"⟩

theorem corrections_reach_pass_hasty :
    Corrections hastyForm [(.passengerName, "Ann"), (.flightNumber, " QF1"), (.airportCode, "ADL")]
        ⟨"Ann", "ADL", " QF1", " Gate 1"⟩ ∧
      (Pass.mk "Ann" "ADL" "QF1" "Gate 1").get .gateNumber = trim (hastyForm.get .gateNumber) := by
  have hrun : Corrections hastyForm
      [(.passengerName, "Ann"), (.flightNumber, " QF1"), (.airportCode, "ADL")]
        ⟨"Ann", "ADL", " QF1", " Gate 1"⟩ := by
    -- The airport is reported last: a missing flight comes before a city for the airport.
    refine @Corrections.round _ _ (.missing .passengerName) _ _ (by decide) (by decide) ?_
    refine @Corrections.round _ _ (.missing .flightNumber) _ _ (by decide) (by decide) ?_
    refine @Corrections.round _ _ (.airportCode "Adelaide") _ _ (by decide) (by decide) ?_
    exact .done _
  have hpass : issue ⟨"Ann", "ADL", " QF1", " Gate 1"⟩ =
      .issued ⟨"Ann", "ADL", "QF1", "Gate 1"⟩ := by
    decide
  obtain ⟨-, -, -, hends⟩ := (corrections_reach_pass hastyForm).2.2 _ _ hrun
  exact ⟨hrun, (hends _ hpass).2 .gateNumber (by decide)⟩

end Boarding
