import Boarding.Field
import Boarding.Text.Blank

/-!
The form on which a boarding pass is asked for: one text per field, as it was typed. Nothing is
promised about the texts of a form; a pass is what checking makes of one.

`Form.get` is the view of a form, and `Form.get_set` and `Form.get_trimmed` say what the two
operations do to it.
-/

namespace Boarding

/-- The texts typed for the four fields. -/
structure Form where
  passengerName : String
  airportCode : String
  flightNumber : String
  gateNumber : String
deriving DecidableEq

namespace Form

/-- The form before anything is typed. -/
def empty : Form := ⟨"", "", "", ""⟩

/-- The text typed for a field. -/
def get (form : Form) : Field → String
  | .passengerName => form.passengerName
  | .airportCode => form.airportCode
  | .flightNumber => form.flightNumber
  | .gateNumber => form.gateNumber

/-- Types a text for one field and leaves the others as they are. -/
def set (form : Form) : Field → String → Form
  | .passengerName, text => { form with passengerName := text }
  | .airportCode, text => { form with airportCode := text }
  | .flightNumber, text => { form with flightNumber := text }
  | .gateNumber, text => { form with gateNumber := text }

/-- The form that has a given text for each field. -/
def ofTexts (texts : Field → String) : Form :=
  ⟨texts .passengerName, texts .airportCode, texts .flightNumber, texts .gateNumber⟩

/-- Takes the padding off every text. -/
def trimmed (form : Form) : Form :=
  ofTexts fun field => Text.trim (form.get field)

/-- The first field, in the order of the fields, for which nothing is typed. -/
def firstEmpty? (form : Form) : Option Field :=
  Field.all.find? fun field => form.get field == ""

/-- A form is known by its four texts. -/
@[ext] theorem ext_get {f g : Form} (h : ∀ field, f.get field = g.get field) : f = g := by
  cases f
  cases g
  simp only [Form.mk.injEq]
  exact ⟨h .passengerName, h .airportCode, h .flightNumber, h .gateNumber⟩

@[simp] theorem get_ofTexts (texts : Field → String) (field : Field) :
    (ofTexts texts).get field = texts field := by
  cases field <;> rfl

@[simp] theorem ofTexts_get (form : Form) : ofTexts form.get = form :=
  ext_get fun field => get_ofTexts _ field

/-- After typing, the field typed into shows the new text and the others show what they did. -/
theorem get_set (form : Form) (field other : Field) (text : String) :
    (form.set field text).get other = if other = field then text else form.get other := by
  cases field <;> cases other <;> rfl

@[simp] theorem get_trimmed (form : Form) (field : Field) :
    form.trimmed.get field = Text.trim (form.get field) :=
  get_ofTexts _ field

end Form

end Boarding
