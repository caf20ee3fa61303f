import Boarding.Proofs.Contract
import Mathlib.Data.List.Infix
import Mathlib.Tactic.MkIffOfInductiveProp

/-!
Messages are unambiguous.

A rejection is shown as a sentence, and so is a wrong shape, and both quote text that anybody may
have written: keys, codes, whole values. Every sentence starts with its heading, nine characters
that the quoted text has no part in. All headings have the same length and those of rejections are
not those of shapes, so a sentence tells at its front whether a form was checked at all, and for a
rejection which check failed; what is quoted is then known from the sentence too.

* `Rejection.message_injective`: a rejection is known by its sentence.
* `Shape.message_ne`: no wrong shape is worded like a rejection.
* `messages_unambiguous`: both, and what they say about two refused texts.
-/

namespace Boarding

open Document

/-! ### Headings -/

/-- What the sentence of a rejection starts with. -/
def Rejection.heading : Rejection → String
  | .missing _ => "missing r"
  | .airportCode _ => "invalid a"
  | .flightNumber _ => "invalid f"

/-- What the sentence about a wrong shape starts with. -/
def Document.Shape.heading : Shape → String
  | .unknownKey _ => "unknown f"
  | .repeatedKey _ => "duplicate"
  | .absentKey _ => "missing f"
  | .shortList _ => "invalid l"
  | .wrongKind _ _ => "invalid t"

/-- `heading` stands at the front of `message`, and has the length of all headings. -/
@[mk_iff]
structure Heads (heading message : String) : Prop where
  front : heading.toList <+: message.toList
  length : heading.toList.length = 9

instance (heading message : String) : Decidable (Heads heading message) :=
  decidable_of_iff _ (heads_iff heading message).symm

namespace Heads

variable {heading heading' message : String}

theorem append (h : Heads heading message) (rest : String) : Heads heading (message ++ rest) := by
  refine ⟨?_, h.length⟩
  rw [String.toList_append]
  exact h.front.trans (List.prefix_append _ _)

/-- A message has one heading. -/
theorem unique (h : Heads heading message) (h' : Heads heading' message) : heading = heading' := by
  have hlength : heading.toList.length = heading'.toList.length := h.length.trans h'.length.symm
  have hle := List.prefix_of_prefix_length_le h.front h'.front (Nat.le_of_eq hlength)
  exact String.toList_inj.mp (hle.eq_of_length hlength)

end Heads

theorem Rejection.heads_message (cause : Rejection) : Heads cause.heading cause.message := by
  cases cause with
  | missing field =>
    have h : Heads "missing r" "missing required field: " := by decide
    exact h.append _
  | airportCode text =>
    have h : Heads "invalid a" "invalid airport code '" := by decide
    exact (h.append _).append _
  | flightNumber text =>
    have h : Heads "invalid f" "invalid flight number '" := by decide
    exact (h.append _).append _

theorem Document.Shape.heads_message (cause : Shape) : Heads cause.heading cause.message := by
  cases cause with
  | unknownKey key =>
    have h : Heads "unknown f" "unknown field `" := by decide
    exact ((h.append _).append _).append _
  | repeatedKey field =>
    have h : Heads "duplicate" "duplicate field `" := by decide
    exact (h.append _).append _
  | absentKey field =>
    have h : Heads "missing f" "missing field `" := by decide
    exact (h.append _).append _
  | shortList count =>
    have h : Heads "invalid l" "invalid length " := by decide
    exact (h.append _).append _
  | wrongKind found wanted =>
    have h : Heads "invalid t" "invalid type: " := by decide
    exact ((h.append _).append _).append _

/-! ### Sentences -/

/-- No wrong shape is worded like a rejection, whatever either of them quotes. -/
theorem Document.Shape.message_ne (shape : Shape) (cause : Rejection) :
    shape.message ≠ cause.message := by
  intro heq
  have hheads := shape.heads_message
  rw [heq] at hheads
  have hheading : shape.heading = cause.heading := hheads.unique cause.heads_message
  cases shape <;> cases cause <;> simp [Shape.heading, Rejection.heading] at hheading

/-- A rejection is known by its sentence. -/
theorem Rejection.message_injective {cause cause' : Rejection}
    (h : cause.message = cause'.message) : cause = cause' := by
  have hheads := cause.heads_message
  rw [h] at hheads
  have hheading : cause.heading = cause'.heading := hheads.unique cause'.heads_message
  -- The headings leave the three pairs of one kind; there the wording around the quoted text is
  -- the same on both sides and is taken off.
  cases cause <;> cases cause' <;> simp only [Rejection.heading, String.reduceEq] at hheading
  case missing.missing field field' =>
    rw [Field.name_injective ((String.append_right_inj _).mp h)]
  case airportCode.airportCode text text' =>
    rw [(String.append_right_inj _).mp ((String.append_left_inj _).mp h)]
  case flightNumber.flightNumber text text' =>
    rw [(String.append_right_inj _).mp ((String.append_left_inj _).mp h)]

namespace Document

/-! ### Refused texts -/

/-- The text is refused, and this is the sentence that says why. -/
def RefusedSaying (text message : String) : Prop :=
  ∃ why, (receive text).outcome = .refused why ∧ why.message? = some message

/-- The text is refused for its shape: its form was never checked, and no event is left. -/
def RefusedUnchecked (text : String) (shape : Shape) : Prop :=
  receive text = ⟨.refused (.unreadable (.shape shape)), []⟩

/-- The text is refused because the form that it carries was rejected, and the event names the
field. -/
def RefusedChecked (text : String) (cause : Rejection) : Prop :=
  (∃ form rest, Carries text form rest ∧ issue form = .rejected cause) ∧
    receive text = ⟨.refused (.rejected cause), [.rejected cause.field]⟩

/-- A sentence is about the shape of the text or about the form in it. -/
theorem refusedSaying_cases {text message : String} (h : RefusedSaying text message) :
    (∃ shape, RefusedUnchecked text shape ∧ shape.message = message) ∨
      ∃ cause, RefusedChecked text cause ∧ cause.message = message := by
  obtain ⟨why, houtcome, hmessage⟩ := h
  by_cases hcarries : ∃ form rest, Carries text form rest
  · obtain ⟨form, rest, hcarries⟩ := hcarries
    have hreceive := receive_of_carries hcarries
    rw [hreceive] at houtcome
    cases hissue : issue form with
    | rejected cause =>
      rw [hissue] at hreceive houtcome
      cases houtcome
      exact .inr ⟨cause, ⟨⟨form, rest, hcarries, hissue⟩, hreceive⟩, Option.some.inj hmessage⟩
    | issued pass =>
      -- A pass can only be lost to text behind the document, and that has no sentence.
      rw [hissue] at houtcome
      simp only [conclude] at houtcome
      split at houtcome <;> cases houtcome
      cases hmessage
  · obtain ⟨fault, hreceive⟩ := exists_fault_of_not_carries hcarries
    rw [hreceive] at houtcome
    cases houtcome
    cases fault with
    | malformed => cases hmessage
    | truncated => cases hmessage
    | shape cause => exact .inl ⟨cause, hreceive, Option.some.inj hmessage⟩

/-- **Messages are unambiguous.** Rejections with the same sentence are the same, and no sentence
about a wrong shape is that of a rejection. So two texts that are refused with the same sentence are
both refused for their shape, unchecked and without an event, or both for the same rejection of the
forms in them, with the same event. -/
theorem messages_unambiguous :
    (∀ cause cause' : Rejection, cause.message = cause'.message → cause = cause') ∧
    (∀ (shape : Shape) (cause : Rejection), shape.message ≠ cause.message) ∧
    (∀ text text' message, RefusedSaying text message → RefusedSaying text' message →
      (∃ shape shape', RefusedUnchecked text shape ∧ RefusedUnchecked text' shape') ∨
        ∃ cause, RefusedChecked text cause ∧ RefusedChecked text' cause) := by
  refine ⟨fun _ _ => Rejection.message_injective, Shape.message_ne, ?_⟩
  intro text text' message h h'
  rcases refusedSaying_cases h with ⟨shape, hshape, rfl⟩ | ⟨cause, hcause, rfl⟩
  · rcases refusedSaying_cases h' with ⟨shape', hshape', -⟩ | ⟨cause', -, heq⟩
    · exact .inl ⟨shape, shape', hshape, hshape'⟩
    · exact absurd heq.symm (shape.message_ne cause')
  · rcases refusedSaying_cases h' with ⟨shape', -, heq⟩ | ⟨cause', hcause', heq⟩
    · exact absurd heq (shape'.message_ne cause)
    · rw [Rejection.message_injective heq] at hcause'
      exact .inr ⟨cause, hcause, hcause'⟩

/-- A list with the front of another sentence for its airport. -/
def quotingList : String := "[\"A\",\"missing f\",\"QF1\",\"2\"]"

/-- Another list with that text, padded and spelled otherwise, and junk behind it. -/
def quotingPadded : String := "[\"B\", \" \\u006dissing f\" ,\"-\",\"2\"]]"

theorem messages_unambiguous_quoting :
    ∃ cause, RefusedChecked quotingList cause ∧ RefusedChecked quotingPadded cause := by
  have hcause : (receive quotingList).outcome =
      .refused (.rejected (.airportCode "missing f")) := by
    decide +kernel
  have hcause' : (receive quotingPadded).outcome =
      .refused (.rejected (.airportCode "missing f")) := by
    decide +kernel
  rcases messages_unambiguous.2.2 quotingList quotingPadded _ ⟨_, hcause, rfl⟩
      ⟨_, hcause', rfl⟩ with ⟨shape, shape', hshape, -⟩ | hchecked
  · rw [hshape] at hcause
    cases hcause
  · exact hchecked

end Document

end Boarding
