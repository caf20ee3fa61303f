import Boarding.Field
import Boarding.Number.Quantity
import Boarding.Text.Quoted

/-!
What can be wrong with a document before its form is checked. A document is read from left to
right and the first problem is the answer, so there is one fault at most: the text breaks the rules
of writing, it ends too early, or it is well written so far and has the wrong shape for a form.
Only the last kind has something to tell.
-/

namespace Boarding.Document

/-- A value that stands where another kind was wanted. Lists and objects are recognised by their
opening bracket and not looked into. -/
inductive Foreign where
  | null
  | boolean (value : Bool)
  | number (value : Number.Quantity)
  | text (value : String)
  | list
  | object
deriving DecidableEq

/-- What was wanted. -/
inductive Wanted where
  /-- A whole form. -/
  | form
  /-- The text for one field. -/
  | text
deriving DecidableEq

/-- How a well-written document fails to be a form. -/
inductive Shape where
  /-- A key that names no field. -/
  | unknownKey (key : String)
  /-- A key that was given before. -/
  | repeatedKey (field : Field)
  /-- A field for which no key was given. -/
  | absentKey (field : Field)
  /-- A list that ends before every field has its text. -/
  | shortList (count : Nat)
  /-- A value of the wrong kind. -/
  | wrongKind (found : Foreign) (wanted : Wanted)
deriving DecidableEq

/-- The first problem met in reading. -/
inductive Fault where
  /-- The text breaks the rules of writing. -/
  | malformed
  /-- The text ends too early. -/
  | truncated
  /-- The text has the wrong shape for a form. -/
  | shape (cause : Shape)
deriving DecidableEq

/-! ### The wording -/

/-- A value as messages show it. -/
def Foreign.describe : Foreign → String
  | null => "null"
  | boolean true => "boolean `true`"
  | boolean false => "boolean `false`"
  | number n@(.integer _) => "integer `" ++ String.ofList n.text ++ "`"
  | number n@(.real _ _) => "floating point `" ++ String.ofList n.text ++ "`"
  | text value => "string " ++ Text.quote value
  | list => "sequence"
  | object => "map"

/-- What was wanted, as messages show it. -/
def Wanted.describe : Wanted → String
  | form => "struct BoardingPassDto"
  | text => "a string"

/-- The sentence that says how the document fails to be a form. -/
def Shape.message : Shape → String
  | unknownKey key =>
    "unknown field `" ++ key ++ "`, expected one of `passengerName`, `airportCode`, " ++
      "`flightNumber`, `gateNumber`"
  | repeatedKey field => "duplicate field `" ++ field.name ++ "`"
  | absentKey field => "missing field `" ++ field.name ++ "`"
  | shortList count =>
    "invalid length " ++ String.ofList (Number.digits count) ++
      ", expected struct BoardingPassDto with 4 elements"
  | wrongKind found wanted =>
    "invalid type: " ++ found.describe ++ ", expected " ++ wanted.describe

end Boarding.Document
