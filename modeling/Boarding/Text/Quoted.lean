import Boarding.Text.Unseen

/-!
Quoted text for reports that a person reads. A quoted text shows every character that can be seen
and spells out the ones that cannot, so that padding or a control character in a field does not go
unnoticed. A double quote and a reverse solidus are spelled out too, which makes the closing quote
unmistakable; a single quote is not.
-/

namespace Boarding.Text

/-- The code point of a character, spelled out in hexadecimal digits between braces. -/
def spellCodePoint (c : Char) : List Char :=
  ['\\', 'u', '\x7b'] ++ Nat.toDigits 16 c.toNat ++ ['\x7d']

/-- How a character is written between the quotes. -/
def quoteChar (c : Char) : List Char :=
  if c = '\"' then ['\\', '\"']
  else if c = '\\' then ['\\', '\\']
  else if c = '\n' then ['\\', 'n']
  else if c = '\r' then ['\\', 'r']
  else if c = '\t' then ['\\', 't']
  else if c = '\x00' then ['\\', '0']
  else if unseen.contains c then spellCodePoint c
  else [c]

/-- A text between double quotes. -/
def quote (s : String) : String :=
  String.ofList (['\"'] ++ s.toList.flatMap quoteChar ++ ['\"'])

end Boarding.Text
