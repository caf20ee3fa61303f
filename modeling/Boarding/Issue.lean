import Boarding.Code
import Boarding.Pass

/-!
Issuing a boarding pass. The padding is taken off every text first. Then all four fields are
looked at for a missing text, in their order, before either code is looked at for its form, the
airport before the flight; the first complaint is the verdict. Every attempt leaves one event,
which names a field at most and repeats nothing that was typed. There are three ways of asking for a
pass, and all of them come down to `issue`.

* `Entry.issue_eq`: every way of asking gets the same verdict.
* `issue_eq_missing_iff`: a field is reported missing exactly when it is the first blank one.
* `issue_eq_issued_iff`: when a pass is issued, and what it carries.
-/

namespace Boarding

/-- The verdict on a form whose texts have no padding: the first complaint, else the pass. -/
def judge (typed : Form) : Verdict :=
  match typed.firstEmpty? with
  | some field => .rejected (.missing field)
  | none =>
    if isAirportCode typed.airportCode = false then
      .rejected (.airportCode typed.airportCode)
    else if isFlightNumber typed.flightNumber = false then
      .rejected (.flightNumber typed.flightNumber)
    else
      .issued (.ofForm typed)

/-- Checks a form as it was typed and issues the pass it asks for. -/
def issue (form : Form) : Verdict :=
  judge form.trimmed

/-- Hands in a form by itself. -/
def Form.issue (form : Form) : Verdict :=
  Boarding.issue form

/-- Converts a form into the pass it asks for. -/
def Pass.convert (form : Form) : Verdict :=
  Boarding.issue form

/-- The ways of asking for a pass. -/
inductive Entry where
  /-- At the desk, with a form. -/
  | desk
  /-- By handing in the form. -/
  | form
  /-- By converting the form. -/
  | conversion
deriving DecidableEq

/-- Asks for a pass in a given way. -/
def Entry.issue : Entry → Form → Verdict
  | .desk, typed => Boarding.issue typed
  | .form, typed => typed.issue
  | .conversion, typed => Pass.convert typed

/-- Every way of asking gets the same verdict. -/
@[simp] theorem Entry.issue_eq (entry : Entry) (form : Form) :
    entry.issue form = Boarding.issue form := by
  cases entry <;> rfl

/-- What an attempt to issue a pass leaves behind in the log. -/
inductive Event where
  | issued
  | rejected (field : Field)
deriving DecidableEq

/-- The event as a line of the log: its level, its message, and the field it names. -/
def Event.line : Event → String
  | issued => "TRACE boarding pass built"
  | rejected field => "DEBUG boarding pass rejected field=" ++ field.name

/-- The event that an attempt with this verdict leaves behind. -/
def Verdict.event : Verdict → Event
  | issued _ => .issued
  | rejected cause => .rejected cause.field

/-- A field is reported missing exactly when it is the first for which only padding was typed. -/
theorem issue_eq_missing_iff {form : Form} {field : Field} :
    issue form = .rejected (.missing field) ↔ form.trimmed.firstEmpty? = some field := by
  unfold issue judge
  split
  next other h => simp [h]
  next h =>
    rw [h]
    split
    · simp
    · split <;> simp

/-- A pass is issued exactly when nothing is missing and both codes have their form; it carries
the typed texts without their padding. -/
theorem issue_eq_issued_iff {form : Form} {pass : Pass} :
    issue form = .issued pass ↔
      form.trimmed.firstEmpty? = none ∧ isAirportCode form.trimmed.airportCode = true ∧
        isFlightNumber form.trimmed.flightNumber = true ∧ pass = .ofForm form.trimmed := by
  unfold issue judge
  split
  next other h => simp [h]
  next h =>
    split
    next ha => simp [ha]
    next ha =>
      split
      next hf => simp [hf]
      next hf =>
        rw [Bool.not_eq_false] at ha hf
        rw [h, ha, hf, Verdict.issued.injEq]
        simp only [true_and, eq_comm]

end Boarding
