import Boarding.Document.Form
import Boarding.Issue

/-!
Receiving a document: its form is read, then checked like any other, and only when a pass was
issued is anything behind the document looked at. So a rejection comes before complaints about
what follows, and a pass can be lost to junk behind the document although its event is in the log.
-/

namespace Boarding.Document

/-- Why a document brought no pass. -/
inductive Refusal where
  /-- The document could not be read, or more than a document was given. -/
  | unreadable (fault : Fault)
  /-- The form in the document was rejected. -/
  | rejected (cause : Rejection)
deriving DecidableEq

/-- The sentence that says what is wrong; a text that is not well written gets none. -/
def Refusal.message? : Refusal → Option String
  | unreadable .malformed => none
  | unreadable .truncated => none
  | unreadable (.shape cause) => some cause.message
  | rejected cause => some cause.message

/-- What a document brought. -/
inductive Outcome where
  | pass (pass : Pass)
  | refused (why : Refusal)
deriving DecidableEq

/-- What a document brought and the events that it left in the log. -/
structure Receipt where
  outcome : Outcome
  events : List Event
deriving DecidableEq

/-- The outcome for a verdict on the form, given the text behind the document. -/
def conclude (verdict : Verdict) (behind : List Char) : Outcome :=
  match verdict with
  | .rejected cause => .refused (.rejected cause)
  | .issued pass =>
    if skipSpace behind = [] then .pass pass else .refused (.unreadable .malformed)

/-- Receives the characters of a document. -/
def receiveChars (cs : List Char) : Receipt :=
  match readForm.run cs with
  | .error fault => ⟨.refused (.unreadable fault), []⟩
  | .ok (form, behind) => ⟨conclude (issue form) behind, [(issue form).event]⟩

theorem receiveChars_of_error {cs : List Char} {fault : Fault}
    (h : readForm.run cs = .error fault) :
    receiveChars cs = ⟨.refused (.unreadable fault), []⟩ := by
  rw [receiveChars, h]

theorem receiveChars_of_ok {cs behind : List Char} {form : Form}
    (h : readForm.run cs = .ok (form, behind)) :
    receiveChars cs = ⟨conclude (issue form) behind, [(issue form).event]⟩ := by
  rw [receiveChars, h]

/-- Receives a document. -/
def receive (text : String) : Receipt :=
  receiveChars text.toList

end Boarding.Document
