import Boarding.Document.Receipt
import Boarding.Proofs.Grammar

/-!
What receiving a document answers, against the grammar of documents.

`Carries text form rest` says that `text` starts, behind space, with a document of `form` and that
`rest` is what stands behind the document. The verdict on that form decides first, and only then
does it matter whether anything is left over.

* `receive_of_carries`: the whole answer for a text that carries a form.
* `exists_fault_of_not_carries`: every other text is refused unread, and leaves no event.
* `receive_iff_carries`: both together, with the order of the three answers spelled out.
-/

namespace Boarding.Document

/-- A document of `form` stands at the front of `text`, with `rest` behind it. -/
def Carries (text : String) (form : Form) (rest : List Char) : Prop :=
  ∃ spaces document, IsSpaces spaces ∧ IsDocument form document ∧
    text.toList = spaces ++ document ++ rest

theorem run_readForm_eq_ok_iff_carries {text : String} {form : Form} {rest : List Char} :
    readForm.run text.toList = .ok (form, rest) ↔ Carries text form rest :=
  run_readForm_eq_ok_iff

theorem skipSpace_eq_nil_iff {cs : List Char} : skipSpace cs = [] ↔ IsSpaces cs := by
  constructor
  · intro h
    obtain ⟨spaces, hspaces, hcs⟩ := exists_spaces cs
    rw [h, List.append_nil] at hcs
    exact hcs ▸ hspaces
  · intro h
    have happend := skipSpace_append h []
    rwa [List.append_nil, skipSpace_nil] at happend

theorem receive_of_carries {text : String} {form : Form} {rest : List Char}
    (h : Carries text form rest) :
    receive text = ⟨conclude (issue form) rest, [(issue form).event]⟩ := by
  rw [receive, receiveChars, run_readForm_eq_ok_iff_carries.mpr h]

theorem outcome_receive_of_carries {text : String} {form : Form} {rest : List Char}
    (h : Carries text form rest) : (receive text).outcome = conclude (issue form) rest := by
  rw [receive_of_carries h]

theorem exists_fault_of_not_carries {text : String} (h : ¬ ∃ form rest, Carries text form rest) :
    ∃ fault, receive text = ⟨.refused (.unreadable fault), []⟩ := by
  cases hread : readForm.run text.toList with
  | error fault => exact ⟨fault, by rw [receive, receiveChars, hread]⟩
  | ok result =>
    obtain ⟨form, rest⟩ := result
    exact absurd ⟨form, rest, run_readForm_eq_ok_iff_carries.mp hread⟩ h

theorem conclude_eq_pass_iff {verdict : Verdict} {rest : List Char} {pass : Pass} :
    conclude verdict rest = .pass pass ↔ verdict = .issued pass ∧ IsSpaces rest := by
  cases verdict with
  | rejected cause => simp [conclude]
  | issued other =>
    rw [conclude, ← skipSpace_eq_nil_iff]
    split
    next hrest => simp [hrest]
    next hrest => simp [hrest]

/-- A pass is brought exactly by a text that carries a form for it and nothing else. -/
theorem outcome_receive_eq_pass_iff {text : String} {pass : Pass} :
    (receive text).outcome = .pass pass ↔
      ∃ form rest, Carries text form rest ∧ IsSpaces rest ∧ issue form = .issued pass := by
  constructor
  · intro h
    by_cases hcarries : ∃ form rest, Carries text form rest
    · obtain ⟨form, rest, hcarries⟩ := hcarries
      rw [outcome_receive_of_carries hcarries] at h
      obtain ⟨hverdict, hrest⟩ := conclude_eq_pass_iff.mp h
      exact ⟨form, rest, hcarries, hrest, hverdict⟩
    · obtain ⟨fault, hreceive⟩ := exists_fault_of_not_carries hcarries
      rw [hreceive] at h
      cases h
  · rintro ⟨form, rest, hcarries, hrest, hverdict⟩
    rw [outcome_receive_of_carries hcarries]
    exact conclude_eq_pass_iff.mpr ⟨hverdict, hrest⟩

/-- **The documents of the contract, and the answers to them.** An event is left exactly by the
texts that carry a form. A rejected form is answered with the message and the field of its
rejection, whatever stands behind the document; an issued pass is the answer if only space stands
behind it, and else it is lost to the text behind, although its event stays. Every other text is
refused as unreadable and leaves no event. -/
theorem receive_iff_carries (text : String) :
    ((receive text).events ≠ [] ↔ ∃ form rest, Carries text form rest) ∧
    (∀ form rest, Carries text form rest →
      (∀ cause, issue form = .rejected cause →
        receive text = ⟨.refused (.rejected cause), [.rejected cause.field]⟩ ∧
          (Refusal.rejected cause).message? = some cause.message) ∧
      (∀ pass, issue form = .issued pass → IsSpaces rest →
        receive text = ⟨.pass pass, [.issued]⟩) ∧
      (∀ pass, issue form = .issued pass → ¬ IsSpaces rest →
        receive text = ⟨.refused (.unreadable .malformed), [.issued]⟩)) ∧
    ((¬ ∃ form rest, Carries text form rest) →
      ∃ fault, receive text = ⟨.refused (.unreadable fault), []⟩) := by
  refine ⟨⟨?_, ?_⟩, ?_, exists_fault_of_not_carries⟩
  · intro hevents
    by_contra hnot
    obtain ⟨fault, hreceive⟩ := exists_fault_of_not_carries hnot
    rw [hreceive] at hevents
    exact hevents rfl
  · rintro ⟨form, rest, hcarries⟩
    rw [receive_of_carries hcarries]
    exact List.cons_ne_nil _ _
  · intro form rest hcarries
    rw [receive_of_carries hcarries]
    refine ⟨fun cause hverdict => ?_, fun pass hverdict hrest => ?_,
      fun pass hverdict hrest => ?_⟩
    · rw [hverdict]
      exact ⟨rfl, rfl⟩
    · rw [hverdict, conclude, if_pos (skipSpace_eq_nil_iff.mpr hrest)]
      rfl
    · rw [hverdict, conclude, if_neg fun hnil => hrest (skipSpace_eq_nil_iff.mp hnil)]
      rfl

/-- Keys out of order and in other spellings, free space, and junk behind the object. -/
def looseDocument : String :=
  " \x7b\"gate\\u004eumber\":\" 2 \" ,\n\"airportCode\" : \"ADL\"," ++
    "\"flightNumber\":\"\\u0051F1\",\"passengerName\":\"\\uD83D\\uDE00\"\x7d x"

theorem receive_iff_carries_loose :
    Carries looseDocument ⟨"😀", "ADL", "QF1", " 2 "⟩ [' ', 'x'] ∧
      receive looseDocument = ⟨.refused (.unreadable .malformed), [.issued]⟩ := by
  have hcarries : Carries looseDocument ⟨"😀", "ADL", "QF1", " 2 "⟩ [' ', 'x'] :=
    run_readForm_eq_ok_iff_carries.mp (by decide +kernel)
  have hissued : issue ⟨"😀", "ADL", "QF1", " 2 "⟩ = .issued ⟨"😀", "ADL", "QF1", "2"⟩ := by
    decide +kernel
  exact ⟨hcarries, ((receive_iff_carries looseDocument).2.1 _ _ hcarries).2.2 _ hissued
    (by decide)⟩

end Boarding.Document
