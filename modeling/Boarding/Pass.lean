import Boarding.Form

/-!
Boarding passes and the reasons for not issuing one. A pass carries the four texts that were
accepted; a rejection names one field, and for a code that has the wrong form also the text that
was found there. `Verdict` is one or the other.
-/

namespace Boarding

/-- A boarding pass. -/
structure Pass where
  passengerName : String
  airportCode : String
  flightNumber : String
  gateNumber : String
deriving DecidableEq

/-- Why no pass was issued. -/
inductive Rejection where
  /-- Nothing but padding was typed for the field. -/
  | missing (field : Field)
  /-- The text for the airport is no airport code. -/
  | airportCode (text : String)
  /-- The text for the flight is no flight number. -/
  | flightNumber (text : String)
deriving DecidableEq

/-- What becomes of a form: a pass, or the reason why there is none. -/
inductive Verdict where
  | issued (pass : Pass)
  | rejected (cause : Rejection)
deriving DecidableEq

namespace Pass

/-- The form that asks for this very pass. -/
def toForm (pass : Pass) : Form :=
  ⟨pass.passengerName, pass.airportCode, pass.flightNumber, pass.gateNumber⟩

/-- The pass that carries the texts of a form. -/
def ofForm (form : Form) : Pass :=
  ⟨form.passengerName, form.airportCode, form.flightNumber, form.gateNumber⟩

/-- The text that a pass carries for a field. -/
def get (pass : Pass) (field : Field) : String :=
  pass.toForm.get field

@[simp] theorem toForm_ofForm (form : Form) : (ofForm form).toForm = form := rfl

@[simp] theorem ofForm_toForm (pass : Pass) : ofForm pass.toForm = pass := rfl

@[simp] theorem get_ofForm (form : Form) (field : Field) :
    (ofForm form).get field = form.get field := rfl

end Pass

namespace Rejection

/-- The field that has to change before a pass can be issued. -/
def field : Rejection → Field
  | missing field => field
  | airportCode _ => .airportCode
  | flightNumber _ => .flightNumber

/-- The text at fault, where there was one. -/
def text? : Rejection → Option String
  | missing _ => none
  | airportCode text => some text
  | flightNumber text => some text

/-- The sentence shown to whoever filled in the form. -/
def message : Rejection → String
  | missing field => "missing required field: " ++ field.name
  | airportCode text =>
    "invalid airport code '" ++ text ++ "': expected 3 alphabetic characters"
  | flightNumber text =>
    "invalid flight number '" ++ text ++ "': expected 2 to 8 alphanumeric characters"

end Rejection

namespace Verdict

/-- The pass, if one was issued. -/
def pass? : Verdict → Option Pass
  | issued pass => some pass
  | rejected _ => none

end Verdict

end Boarding
