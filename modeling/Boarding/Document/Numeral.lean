import Boarding.Document.Reader

/-!
Numbers as a document writes them: an optional minus, a whole part without idle zeros, and
optionally a fraction and an exponent. Reading the digits and working out what they stand for are
kept apart, since only a number that is completely written can be too great.

The significand of a number is gathered in a machine word of 64 bits. Digits for which the word
has no room are left out, before the point and again behind it, and those left out before the
point count as places.
-/

namespace Boarding.Document

open Reader Number

/-- A written number, digit by digit. -/
structure Numeral where
  /-- Whether a minus stands in front. -/
  negative : Bool
  /-- The digits before the point. -/
  whole : List Nat
  /-- The digits behind the point; there are none exactly when there is no point. -/
  fraction : List Nat
  /-- The exponent of ten: whether it is negative, and its digits. -/
  exponent : Option (Bool × List Nat)
deriving DecidableEq

namespace Numeral

/-! ### What a number stands for -/

/-- The first number that a word has no room for. -/
def wordLimit : Nat := Nat.pow 2 64

/-- The greatest size of a negative whole number that is kept exactly. -/
def greatestNegative : Nat := Nat.pow 2 63

/-- Appends digits to a significand as long as a word has room, and gives the digits left out. -/
def gather (significand : Nat) : List Nat → Nat × List Nat
  | [] => (significand, [])
  | d :: ds =>
    if significand * 10 + d < wordLimit then gather (significand * 10 + d) ds
    else (significand, d :: ds)

/-- The number that a run of digits stands for. -/
def ofDigits (ds : List Nat) : Nat :=
  ds.foldl (fun n d => n * 10 + d) 0

/-- The exponent that a number is written with. -/
def writtenExponent (n : Numeral) : Int :=
  match n.exponent with
  | none => 0
  | some (true, ds) => -(ofDigits ds : Int)
  | some (false, ds) => ofDigits ds

/-- A whole number that fits a word: exact when its sign allows it, and else a real one. -/
def wholeQuantity (negative : Bool) (significand : Nat) : Quantity :=
  if negative = false then .integer significand
  else if 0 < significand ∧ significand ≤ greatestNegative then .integer (-(significand : Int))
  else .real true (.ofNat significand)

/-- The quantity that a number stands for, if it is not too great. -/
def quantity? (n : Numeral) : Option Quantity :=
  let whole := gather 0 n.whole
  if n.fraction = [] ∧ n.exponent = none ∧ whole.2 = [] then
    some (wholeQuantity n.negative whole.1)
  else
    let all := gather whole.1 n.fraction
    let places : Int := whole.2.length - (n.fraction.length - all.2.length) + n.writtenExponent
    (Double.ofDecimal? all.1 places).map (.real n.negative)

/-! ### Reading -/

/-- The value of a decimal digit. -/
def digitValue (c : Char) : Nat :=
  c.toNat - '0'.toNat

/-- Reads all digits that come next; there may be none. -/
def readDigits : Reader (List Nat) := fun cs =>
  .ok ((cs.takeWhile Char.isDigit).map digitValue, cs.dropWhile Char.isDigit)

/-- Reads all digits that come next; there has to be one. -/
def readSomeDigits : Reader (List Nat) := do
  let c ← next
  if c.isDigit then
    let ds ← readDigits
    pure (digitValue c :: ds)
  else throw .malformed

/-- Reads one of the given characters, if one comes next. -/
def readOption (marks : List Char) : Reader (Option Char) := fun
  | [] => .ok (none, [])
  | c :: cs => if c ∈ marks then .ok (some c, cs) else .ok (none, c :: cs)

/-- Reads the digits before the point: a zero stands alone. -/
def readWhole : Reader (List Nat) := do
  let ds ← readSomeDigits
  if ds.head? = some 0 ∧ ds ≠ [0] then throw .malformed else pure ds

/-- Reads the fraction, if there is a point. -/
def readFraction : Reader (List Nat) := do
  match ← readOption ['.'] with
  | none => pure []
  | some _ => readSomeDigits

/-- Reads the exponent, if there is one. -/
def readExponent : Reader (Option (Bool × List Nat)) := do
  match ← readOption ['e', 'E'] with
  | none => pure none
  | some _ =>
    let sign ← readOption ['+', '-']
    let ds ← readSomeDigits
    pure (some (sign == some '-', ds))

/-- Reads a number. -/
def read : Reader Numeral := do
  let sign ← readOption ['-']
  let whole ← readWhole
  let fraction ← readFraction
  let exponent ← readExponent
  pure ⟨sign.isSome, whole, fraction, exponent⟩

/-- Reads a number that is not too great. -/
def readQuantity : Reader Quantity := do
  let n ← read
  match n.quantity? with
  | some q => pure q
  | none => throw .malformed

end Numeral

end Boarding.Document
