import Boarding.Document.Literal
import Boarding.Pass

/-!
Passes as documents. A pass is written as an object with the fields in their order. Two styles
differ only in the space between the marks: the compact one has none, and the pretty one puts
every field on a line of its own.
-/

namespace Boarding.Document

/-- The space that a written object has between its marks. -/
structure Style where
  /-- Before each key. -/
  beforeKey : List Char
  /-- Between the colon and the value. -/
  afterColon : List Char
  /-- Before the closing bracket. -/
  beforeEnd : List Char

namespace Style

/-- No space at all. -/
def compact : Style := ⟨[], [], []⟩

/-- Each field on its own line, indented by two. -/
def pretty : Style := ⟨['\n', ' ', ' '], [' '], ['\n']⟩

end Style

/-- A field of a pass with its text. -/
def writeMember (style : Style) (pass : Pass) (field : Field) : List Char :=
  style.beforeKey ++ Literal.write field.name ++ [':'] ++ style.afterColon ++
    Literal.write (pass.get field)

/-- The members of an object with commas between them. -/
def writeMembers (style : Style) (pass : Pass) : List Field → List Char
  | [] => []
  | [field] => writeMember style pass field
  | field :: fields => writeMember style pass field ++ [','] ++ writeMembers style pass fields

/-- The characters of a pass written as an object. -/
def writeChars (style : Style) (pass : Pass) : List Char :=
  ['\x7b'] ++ writeMembers style pass Field.all ++ style.beforeEnd ++ ['\x7d']

/-- A pass written as an object. -/
def write (style : Style) (pass : Pass) : String :=
  String.ofList (writeChars style pass)

end Boarding.Document
