/-!
The four fields of a boarding pass. Their order is the order in which they are asked for,
written and reported, and `Field.name` is the name by which documents and messages call them.

* `Field.mem_all`: the list of fields leaves none out.
* `Field.ofName?_eq_some_iff`: a name belongs to one field.
-/

namespace Boarding

/-- A field of a boarding pass. -/
inductive Field where
  | passengerName
  | airportCode
  | flightNumber
  | gateNumber
deriving DecidableEq

namespace Field

/-- The fields, in the order in which they are asked for and reported. -/
def all : List Field :=
  [passengerName, airportCode, flightNumber, gateNumber]

/-- The name of a field in documents, messages and events. -/
def name : Field → String
  | passengerName => "passengerName"
  | airportCode => "airportCode"
  | flightNumber => "flightNumber"
  | gateNumber => "gateNumber"

/-- The field that bears a name; the case of letters matters. -/
def ofName? (text : String) : Option Field :=
  all.find? fun field => field.name == text

@[simp] theorem mem_all (field : Field) : field ∈ all := by
  cases field <;> simp [all]

@[simp] theorem ofName?_name (field : Field) : ofName? field.name = some field := by
  cases field <;> decide

/-- Different fields bear different names. -/
theorem name_injective {f g : Field} (h : f.name = g.name) : f = g := by
  have hf := ofName?_name f
  rw [h, ofName?_name] at hf
  exact (Option.some.inj hf).symm

/-- A name is looked up to the field that bears it. -/
theorem ofName?_eq_some_iff {text : String} {field : Field} :
    ofName? text = some field ↔ field.name = text := by
  constructor
  · intro h
    have := List.find?_some h
    simpa using this
  · rintro rfl
    exact ofName?_name field

end Field

end Boarding
