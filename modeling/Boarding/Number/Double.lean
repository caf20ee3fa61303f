/-!
Double-precision values by exact arithmetic.

A finite value without its sign is counted in units of `2 ^ -1074`, the smallest positive one, so
it is a natural number: below `2 ^ 53` units every count is a value, and above that the values
stand `step` units apart, so that 53 binary digits tell them from each other. An operation forms
its exact result as a ratio and rounds it once, a tie going to the even neighbour.

* `roundDiv_mul_le`, `le_roundDiv_mul`: rounding a ratio errs by half a unit at most.
-/

namespace Boarding.Number

/-- The natural number nearest to a ratio; halfway between two, the even one. -/
def roundDiv (num den : Nat) : Nat :=
  let low := num / den
  let twice := 2 * (num % den)
  if twice < den then low
  else if den < twice then low + 1
  else if low % 2 = 0 then low
  else low + 1

/-- A rounded ratio is above the ratio by half a unit at most. -/
theorem roundDiv_mul_le (num den : Nat) : 2 * (roundDiv num den * den) ≤ 2 * num + den := by
  have h := Nat.div_add_mod' num den
  simp only [roundDiv]
  split
  · omega
  · split
    · rw [Nat.add_mul]; omega
    · split
      · omega
      · rw [Nat.add_mul]; omega

/-- A rounded ratio is below the ratio by half a unit at most. -/
theorem le_roundDiv_mul (num den : Nat) (hden : 0 < den) :
    2 * num ≤ 2 * (roundDiv num den * den) + den := by
  have h := Nat.div_add_mod' num den
  have hmod := Nat.mod_lt num hden
  simp only [roundDiv]
  split
  · omega
  · split
    · rw [Nat.add_mul]; omega
    · split
      · omega
      · rw [Nat.add_mul]; omega

/-- The number of binary digits of a natural number. -/
def bitLength (n : Nat) : Nat :=
  if n = 0 then 0 else n.log2 + 1

/-- The binary digits that a value can hold. -/
def precision : Nat := 53

/-- How many units make the number one. -/
def unitsPerOne : Nat := Nat.pow 2 1074

/-- From this many units on a value is infinite. -/
def unitsAtInfinity : Nat := Nat.pow 2 (1024 + 1074)

/-- The greatest power of ten whose value is finite. -/
def greatestDecade : Nat := 308

/-- The distance, in units, between neighbouring values around a count of units. -/
def step (units : Nat) : Nat :=
  Nat.pow 2 (bitLength units - precision)

/-- A value without its sign. -/
structure Double where
  /-- The value as a multiple of the smallest positive one. -/
  units : Nat
deriving DecidableEq

namespace Double

/-- The value nearest to a ratio of units. -/
def round (num den : Nat) : Double :=
  let gap := step (num / den)
  ⟨roundDiv num (den * gap) * gap⟩

/-- The value nearest to a natural number. -/
def ofNat (n : Nat) : Double :=
  round (n * unitsPerOne) 1

/-- The value nearest to a product. -/
def mul (a b : Double) : Double :=
  round (a.units * b.units) unitsPerOne

/-- The value nearest to a quotient. -/
def div (a b : Double) : Double :=
  round (a.units * unitsPerOne) b.units

/-- Whether a value is zero. -/
def isZero (a : Double) : Bool :=
  a.units == 0

/-- Whether a value is finite. -/
def isFinite (a : Double) : Bool :=
  a.units < unitsAtInfinity

/-- The value nearest to a power of ten. -/
def tenTo (k : Nat) : Double :=
  ofNat (Nat.pow 10 k)

/-- A value times a power of ten, if that is finite. -/
def scaleUp (a : Double) (k : Nat) : Option Double :=
  if k ≤ greatestDecade then
    let product := a.mul (tenTo k)
    if product.isFinite then some product else none
  else if a.isZero then some a
  else none

/-- A value over a power of ten. A power too great to be a value divides in several goes, until
it is used up or nothing is left to divide. -/
def scaleDown (a : Double) (k : Nat) : Double :=
  if k ≤ greatestDecade then a.div (tenTo k)
  else if a.isZero then a
  else scaleDown (a.div (tenTo greatestDecade)) (k - greatestDecade)
termination_by k
decreasing_by
  simp only [greatestDecade] at *
  omega

/-- The value read off a decimal: its significand, rounded, times or over its power of ten. It is
the value nearest to the decimal or a close neighbour of that one, and there is none when the
decimal is too great. -/
def ofDecimal? (significand : Nat) : Int → Option Double
  | .ofNat k => (ofNat significand).scaleUp k
  | .negSucc k => some ((ofNat significand).scaleDown (k + 1))

end Double

end Boarding.Number
