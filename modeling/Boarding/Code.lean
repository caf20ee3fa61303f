/-!
The two codes on a boarding pass that have a fixed form: the three letters of an airport and the
letters and digits of a flight. Lengths count characters, and letters and digits are those of
ASCII, so an accented or full-width look-alike belongs to no code. The checks look at the text
as it stands; padding makes a text no code.
-/

namespace Boarding

/-- The number of letters in an airport code. -/
def airportCodeLength : Nat := 3

/-- The least number of characters in a flight number. -/
def flightNumberMin : Nat := 2

/-- The greatest number of characters in a flight number. -/
def flightNumberMax : Nat := 8

/-- Whether a text is an airport code: letters only, and as many as a code has. -/
def isAirportCode (text : String) : Bool :=
  text.length == airportCodeLength && text.toList.all Char.isAlpha

/-- Whether a text is a flight number: letters and digits only, and no fewer and no more of them
than a flight number has. -/
def isFlightNumber (text : String) : Bool :=
  (flightNumberMin ≤ text.length && text.length ≤ flightNumberMax) &&
    text.toList.all Char.isAlphanum

/-- An airport code is three letters. -/
theorem isAirportCode_iff {text : String} :
    isAirportCode text = true ↔
      text.toList.length = airportCodeLength ∧ ∀ c ∈ text.toList, c.isAlpha = true := by
  simp [isAirportCode, String.length_toList]

/-- A flight number is two to eight letters and digits. -/
theorem isFlightNumber_iff {text : String} :
    isFlightNumber text = true ↔
      (flightNumberMin ≤ text.toList.length ∧ text.toList.length ≤ flightNumberMax) ∧
        ∀ c ∈ text.toList, c.isAlphanum = true := by
  simp [isFlightNumber, String.length_toList]

end Boarding
