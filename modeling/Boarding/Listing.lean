import Boarding.Pass
import Boarding.Text.Quoted

/-!
Listings of forms, verdicts and their parts, for reports that show the values as they are held.
A listing is a small tree of labels and quoted texts. It is written on one line, or spread over
lines with four blanks for each level and a comma behind everything that stands inside.
-/

namespace Boarding

/-- What a listing shows. -/
inductive Listing where
  /-- A label that stands for itself. -/
  | label (name : String)
  /-- A quoted text. -/
  | text (value : String)
  /-- A label around one other listing. -/
  | tagged (name : String) (inside : Listing)
  /-- A label around texts that have labels of their own. -/
  | table (name : String) (rows : List (String × String))
deriving DecidableEq

namespace Listing

/-- A label and its quoted text. -/
def row (entry : String × String) : String :=
  entry.1 ++ ": " ++ Text.quote entry.2

/-- A listing on one line. -/
def line : Listing → String
  | label name => name
  | text value => Text.quote value
  | tagged name inside => name ++ "(" ++ inside.line ++ ")"
  | table name rows => name ++ " \x7b " ++ ", ".intercalate (rows.map row) ++ " \x7d"

/-- The blanks before what stands at a level. -/
def indent (level : Nat) : String :=
  String.ofList (List.replicate (4 * level) ' ')

/-- A listing over several lines, its first line at a place indented to the given level. -/
def linesAt (level : Nat) : Listing → String
  | label name => name
  | text value => Text.quote value
  | tagged name inside =>
    name ++ "(\n" ++ indent (level + 1) ++ inside.linesAt (level + 1) ++ ",\n" ++
      indent level ++ ")"
  | table name rows =>
    name ++ " \x7b\n" ++
      String.join (rows.map fun entry => indent (level + 1) ++ row entry ++ ",\n") ++
        indent level ++ "\x7d"

/-- A listing over several lines. -/
def lines (listing : Listing) : String :=
  listing.linesAt 0

end Listing

/-! ### What is listed -/

/-- The label of a field among the rows of a table. -/
def Field.rowLabel : Field → String
  | passengerName => "passenger_name"
  | airportCode => "airport_code"
  | flightNumber => "flight_number"
  | gateNumber => "gate_number"

/-- A field, listed by itself. -/
def Field.listing : Field → Listing
  | passengerName => .label "PassengerName"
  | airportCode => .label "AirportCode"
  | flightNumber => .label "FlightNumber"
  | gateNumber => .label "GateNumber"

/-- The texts of a form with their labels. -/
def Form.rows (form : Form) : List (String × String) :=
  Field.all.map fun field => (field.rowLabel, form.get field)

/-- A form, listed with its four texts. -/
def Form.listing (form : Form) : Listing :=
  .table "BoardingPassInput" form.rows

/-- A pass, listed with its four texts. -/
def Pass.listing (pass : Pass) : Listing :=
  .table "BoardingPassRecord" pass.toForm.rows

/-- A rejection, listed with its field or the text at fault. -/
def Rejection.listing : Rejection → Listing
  | missing field => .tagged "MissingField" field.listing
  | airportCode text => .tagged "InvalidAirportCode" (.text text)
  | flightNumber text => .tagged "InvalidFlightNumber" (.text text)

/-- A verdict, listed with the pass or the rejection. -/
def Verdict.listing : Verdict → Listing
  | issued pass => .tagged "Ok" pass.listing
  | rejected cause => .tagged "Err" cause.listing

end Boarding
