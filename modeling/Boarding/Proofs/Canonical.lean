import Boarding.Proofs.RoundTrip

/-!
The compact document of a pass is a canonical form.

Many texts bring the same pass: keys in another order, a list for an object, other spellings, more
space, padding around the texts. `SameCore` says of two typed texts that they differ in padding at
most. Whatever else differs between two texts that bring passes shows in what is written for the
passes, because writing loses nothing.

* `carries_unique`: a text carries one form at most.
* `write_injective`: different passes are written differently.
* `write_received_iff`: when two texts that bring passes have the same canonical form, and that
  texts which differ in padding only get the same answer.
-/

namespace Boarding

open Text

namespace Text

/-- The same text up to the white space around it. -/
def SameCore (s t : String) : Prop :=
  ∃ core, IsCore s core ∧ IsCore t core

theorem sameCore_iff {s t : String} : SameCore s t ↔ trim s = trim t := by
  constructor
  · rintro ⟨core, hs, ht⟩
    rw [← isCore_iff.mp hs, isCore_iff.mp ht]
  · intro h
    exact ⟨trim s, isCore_trim s, isCore_iff.mpr h⟩

end Text

section

variable {f g : Form}

theorem trimmed_eq_iff : f.trimmed = g.trimmed ↔ ∀ field, SameCore (f.get field) (g.get field) := by
  simp only [sameCore_iff, ← Form.get_trimmed]
  exact ⟨fun h field => by rw [h], Form.ext_get⟩

theorem issue_eq_of_sameCore (h : ∀ field, SameCore (f.get field) (g.get field)) :
    issue f = issue g := by
  rw [issue, issue, trimmed_eq_iff.mpr h]

end

namespace Document

/-! ### Texts and the forms they carry -/

theorem carries_unique {text : String} {f g : Form} {rest rest' : List Char}
    (h : Carries text f rest) (h' : Carries text g rest') : f = g ∧ rest = rest' := by
  have hf := run_readForm_eq_ok_iff_carries.mpr h
  have hg := run_readForm_eq_ok_iff_carries.mpr h'
  rw [hf] at hg
  exact Prod.mk.inj (Except.ok.inj hg)

theorem write_injective {style : Style} (hstyle : style.Spaced) {p q : Pass}
    (h : write style p = write style q) : p = q := by
  have hp := carries_write hstyle p
  rw [h] at hp
  have hform : p.toForm = q.toForm := (carries_unique hp (carries_write hstyle q)).1
  rw [← Pass.ofForm_toForm p, hform, Pass.ofForm_toForm]

theorem conclude_of_spaces {rest rest' : List Char} (h : IsSpaces rest) (h' : IsSpaces rest')
    (verdict : Verdict) : conclude verdict rest = conclude verdict rest' := by
  cases verdict with
  | rejected cause => rfl
  | issued pass =>
    rw [conclude, conclude, if_pos (skipSpace_eq_nil_iff.mpr h),
      if_pos (skipSpace_eq_nil_iff.mpr h')]

/-- Passes issued from two forms are the same exactly when the forms differ in padding at most. -/
theorem pass_eq_iff_of_issued {f g : Form} {p q : Pass} (hp : issue f = .issued p)
    (hq : issue g = .issued q) : p = q ↔ ∀ field, SameCore (f.get field) (g.get field) := by
  obtain ⟨-, -, -, rfl⟩ := issue_eq_issued_iff.mp hp
  obtain ⟨-, -, -, rfl⟩ := issue_eq_issued_iff.mp hq
  rw [← trimmed_eq_iff]
  constructor
  · intro h
    rw [← Pass.toForm_ofForm f.trimmed, h, Pass.toForm_ofForm]
  · intro h
    rw [h]

/-! ### The canonical form -/

/-- **The compact document is a canonical form.** Two texts that bring passes carry forms, and the
passes are written as the same compact document exactly when the forms differ in padding at most,
which is when the passes are the same. And two texts that carry forms, with nothing but space behind
them, get the same answer with the same events whenever the forms differ in padding at most. -/
theorem write_received_iff :
    (∀ text text' pass pass', (receive text).outcome = .pass pass →
      (receive text').outcome = .pass pass' →
      (∃ form rest, Carries text form rest) ∧ (∃ form rest, Carries text' form rest) ∧
      ∀ form form' rest rest', Carries text form rest → Carries text' form' rest' →
        (write .compact pass = write .compact pass' ↔
          ∀ field, SameCore (form.get field) (form'.get field)) ∧
        (write .compact pass = write .compact pass' ↔ pass = pass')) ∧
    (∀ text text' form form' rest rest', Carries text form rest → IsSpaces rest →
      Carries text' form' rest' → IsSpaces rest' →
      (∀ field, SameCore (form.get field) (form'.get field)) → receive text = receive text') := by
  constructor
  · intro text text' pass pass' h h'
    obtain ⟨form, rest, hcarries, -, hissue⟩ := outcome_receive_eq_pass_iff.mp h
    obtain ⟨form', rest', hcarries', -, hissue'⟩ := outcome_receive_eq_pass_iff.mp h'
    have hwrite : write .compact pass = write .compact pass' ↔ pass = pass' :=
      ⟨write_injective spaced_compact, fun heq => by rw [heq]⟩
    refine ⟨⟨form, rest, hcarries⟩, ⟨form', rest', hcarries'⟩, ?_⟩
    intro f g _ _ hf hg
    rw [(carries_unique hf hcarries).1, (carries_unique hg hcarries').1]
    exact ⟨hwrite.trans (pass_eq_iff_of_issued hissue hissue'), hwrite⟩
  · intro text text' form form' rest rest' hcarries hrest hcarries' hrest' hsame
    rw [receive_of_carries hcarries, receive_of_carries hcarries', issue_eq_of_sameCore hsame,
      conclude_of_spaces hrest hrest']

/-- A list with padding in it. -/
def paddedList : String := "[\" Ann\", \"ADL\\u0009\", \"QF1\", \"\\u30002\"]\n"

/-- An object that says the same without padding. -/
def bareObject : String :=
  "\x7b\"gateNumber\":\"2\",\"flightNumber\":\"QF1\",\"airportCode\":\"ADL\"," ++
    "\"passengerName\":\"\\u0041nn\"\x7d"

theorem write_received_iff_padded :
    Text.SameCore "ADL\t" "ADL" ∧ receive paddedList = receive bareObject := by
  have hlist : Carries paddedList ⟨" Ann", "ADL\t", "QF1", "\u30002"⟩ ['\n'] :=
    run_readForm_eq_ok_iff_carries.mp (by decide +kernel)
  have hobject : Carries bareObject ⟨"Ann", "ADL", "QF1", "2"⟩ [] :=
    run_readForm_eq_ok_iff_carries.mp (by decide +kernel)
  have hpass : (receive paddedList).outcome = .pass ⟨"Ann", "ADL", "QF1", "2"⟩ := by
    decide +kernel
  have hpass' : (receive bareObject).outcome = .pass ⟨"Ann", "ADL", "QF1", "2"⟩ := by
    decide +kernel
  have hsame := ((write_received_iff.1 _ _ _ _ hpass hpass').2.2 _ _ _ _ hlist hobject).1.mp rfl
  exact ⟨hsame .airportCode,
    write_received_iff.2 _ _ _ _ _ _ hlist (by decide) hobject (by decide) hsame⟩

end Document

end Boarding
