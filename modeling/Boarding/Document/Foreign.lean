import Boarding.Document.Literal
import Boarding.Document.Numeral

/-!
Values that stand where another kind was wanted. Such a value is named in the message, so words,
numbers and texts are read to their end first and a fault in them comes before the message; a list
or an object is named as soon as its bracket is seen.
-/

namespace Boarding.Document

open Reader

namespace Foreign

/-- Reads a value, lists and objects only by their bracket. -/
def read : Reader Foreign := do
  let c ← look
  if c = 'n' then do
    expectAll ['n', 'u', 'l', 'l']
    pure .null
  else if c = 't' then do
    expectAll ['t', 'r', 'u', 'e']
    pure (.boolean true)
  else if c = 'f' then do
    expectAll ['f', 'a', 'l', 's', 'e']
    pure (.boolean false)
  else if c = '-' ∨ c.isDigit then do
    let value ← Numeral.readQuantity
    pure (.number value)
  else if c = '\"' then do
    let _ ← next
    let value ← Literal.read
    pure (.text value)
  else if c = '[' then pure .list
  else if c = '\x7b' then pure .object
  else throw .malformed

end Foreign

/-- Reads a value of the wrong kind and gives up because of it. -/
def refuseForeign {α : Type} (wanted : Wanted) : Reader α := do
  let found ← Foreign.read
  refuse (.wrongKind found wanted)

/-- Reads the text for a field. -/
def readText : Reader String := do
  let c ← look
  if c = '\"' then do
    let _ ← next
    Literal.read
  else refuseForeign .text

end Boarding.Document
