import Boarding.Number.Double

/-!
The decimal by which a double-precision value is written: of the decimals that round to the value
the ones with the fewest digits, and of those the nearest. Candidates with a given number of
digits are the two neighbours of the value on the grid of such decimals, so trying one digit,
then two, and so on finds it; seventeen digits always suffice.

* `toDouble_shortest`: when the search succeeds, the decimal found rounds to the value.
-/

namespace Boarding.Number

/-- A decimal: a whole coefficient times a power of ten. -/
structure Decimal where
  coefficient : Nat
  exponent : Int
deriving DecidableEq

namespace Decimal

/-- The value nearest to a decimal. -/
def toDouble (d : Decimal) : Double :=
  match d.exponent with
  | .ofNat k => .round (d.coefficient * Nat.pow 10 k * unitsPerOne) 1
  | .negSucc k => .round (d.coefficient * unitsPerOne) (Nat.pow 10 (k + 1))

/-- The number of digits that suffice for every value. -/
def greatestDigitCount : Nat := 17

end Decimal

/-- The decimal digits of a natural number, the leading one first. -/
def digits (n : Nat) : List Char :=
  Nat.toDigits 10 n

/-- The exponent of ten that belongs to the leading digit of a positive ratio. -/
def leadingExponent (num den : Nat) : Int :=
  if den ≤ num then ((digits (num / den)).length : Int) - 1
  else -((digits ((den - 1) / num)).length : Int)

namespace Double

/-- The two neighbours of a value among the multiples of a power of ten, the nearer one first. -/
def neighbours (a : Double) (exponent : Int) : List Decimal :=
  let ratio : Nat × Nat :=
    match exponent with
    | .ofNat k => (a.units, unitsPerOne * Nat.pow 10 k)
    | .negSucc k => (a.units * Nat.pow 10 (k + 1), unitsPerOne)
  let near := roundDiv ratio.1 ratio.2
  let low := ratio.1 / ratio.2
  let far := if near = low then low + 1 else low
  [⟨near, exponent⟩, ⟨far, exponent⟩]

/-- The candidates for writing a value, those with fewer digits first. -/
def candidates (a : Double) : List Decimal :=
  let lead := leadingExponent a.units unitsPerOne
  (List.range Decimal.greatestDigitCount).flatMap fun (n : Nat) => a.neighbours (lead - n)

/-- The first candidate that rounds to the value. -/
def shortest? (a : Double) : Option Decimal :=
  a.candidates.find? fun d => d.toDouble == a

/-- A decimal that the search finds rounds to the value it was found for. -/
theorem toDouble_shortest {a : Double} {d : Decimal} (h : a.shortest? = some d) :
    d.toDouble = a := by
  simpa using List.find?_some h

end Double

end Boarding.Number
