import Boarding.Number.Shortest

/-!
The numbers that a document can hold, and their text. A whole number that fits a machine word is
kept exactly; every other number is a double-precision value with a sign, so minus zero is one.
-/

namespace Boarding.Number

/-- A number of a document. -/
inductive Quantity where
  /-- A whole number, kept exactly. -/
  | integer (n : Int)
  /-- A double-precision value. -/
  | real (negative : Bool) (size : Double)
deriving DecidableEq

/-- The least exponent of the leading digit for which a value is written without exponent. -/
def leastPositional : Int := -5

/-- The greatest exponent of the leading digit for which a value is written without exponent. -/
def greatestPositional : Int := 15

/-- Takes the zeros off the end of a run of digits. -/
def dropZeros (ds : List Char) : List Char :=
  (ds.reverse.dropWhile (· == '0')).reverse

/-- A whole number in decimal digits. -/
def integerText : Int → List Char
  | .ofNat n => digits n
  | .negSucc n => '-' :: digits (n + 1)

/-- Digits in their places: a value below one starts with a zero, and a value without fraction
ends in a point and a zero. -/
def positionalText (ds : List Char) : Int → List Char
  | .ofNat lead =>
    let whole := ds.take (lead + 1)
    let fraction := ds.drop (lead + 1)
    whole ++ List.replicate (lead + 1 - whole.length) '0' ++ ['.'] ++
      (if fraction.isEmpty then ['0'] else fraction)
  | .negSucc k => ['0', '.'] ++ List.replicate k '0' ++ ds

/-- The leading digit, the others behind a point, and the exponent with its sign. -/
def scientificText (ds : List Char) (lead : Int) : List Char :=
  ds.take 1 ++ (if ds.drop 1 = [] then [] else '.' :: ds.drop 1) ++ ['e'] ++
    (if lead < 0 then ['-'] else ['+']) ++ digits lead.natAbs

/-- A decimal, given by its coefficient and exponent, in the shorter of the two ways that suits
its size. -/
def decimalText (d : Decimal) : List Char :=
  let all := digits d.coefficient
  let lead := d.exponent + all.length - 1
  let ds := dropZeros all
  if leastPositional ≤ lead ∧ lead ≤ greatestPositional then positionalText ds lead
  else scientificText ds lead

/-- A double-precision value without its sign. The search for the digits leaves no value
without any, so the empty text is never written. -/
def doubleText (a : Double) : List Char :=
  if a.isZero then ['0', '.', '0']
  else a.shortest?.elim [] decimalText

/-- A number as messages show it. -/
def Quantity.text : Quantity → List Char
  | integer n => integerText n
  | real negative size => (if negative then ['-'] else []) ++ doubleText size

end Boarding.Number
