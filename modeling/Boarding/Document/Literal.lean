import Boarding.Document.Reader

/-!
Texts inside a document. A text stands between double quotes; in it a reverse solidus starts an
escape, and a control character may only be written as one. Writing uses the short escapes where
there are any and four hexadecimal digits for the other controls; all else is written as it is.
Reading accepts every spelling: a character may be escaped that need not be, and a code point
beyond the first plane may be given by its two halves.

* `Literal.element`: one written character, or the closing quote.
* `Literal.rest`: all characters up to the closing quote.
* `Literal.write`: a text between quotes.
-/

namespace Boarding.Document.Literal

open Reader

/-! ### Writing -/

/-- A control character in hexadecimal digits; there are two, since controls end below 32. -/
def writeControl (c : Char) : List Char :=
  ['\\', 'u', '0', '0', Nat.digitChar (c.toNat / 16), Nat.digitChar (c.toNat % 16)]

/-- How a character is written between the quotes. -/
def writeChar (c : Char) : List Char :=
  if c = '\"' then ['\\', '\"']
  else if c = '\\' then ['\\', '\\']
  else if c = '\x08' then ['\\', 'b']
  else if c = '\x0c' then ['\\', 'f']
  else if c = '\n' then ['\\', 'n']
  else if c = '\r' then ['\\', 'r']
  else if c = '\t' then ['\\', 't']
  else if c.toNat < 0x20 then writeControl c
  else [c]

/-- A text between quotes. -/
def write (text : String) : List Char :=
  ['\"'] ++ text.toList.flatMap writeChar ++ ['\"']

/-! ### Reading code points -/

/-- The value of a hexadecimal digit of either case. -/
def hexValue? (c : Char) : Option Nat :=
  if '0' ≤ c ∧ c ≤ '9' then some (c.toNat - '0'.toNat)
  else if 'a' ≤ c ∧ c ≤ 'f' then some (c.toNat - 'a'.toNat + 10)
  else if 'A' ≤ c ∧ c ≤ 'F' then some (c.toNat - 'A'.toNat + 10)
  else none

/-- The number that four hexadecimal digits stand for. -/
def unitValue? (a b c d : Char) : Option Nat := do
  let a ← hexValue? a
  let b ← hexValue? b
  let c ← hexValue? c
  let d ← hexValue? d
  return ((a * 16 + b) * 16 + c) * 16 + d

/-- How many octets a text takes up in UTF-8. -/
def octets : List Char → Nat
  | [] => 0
  | c :: cs => c.utf8Size + octets cs

/-- Reads four hexadecimal digits. The text ends too early when fewer than four octets are left,
whatever they are. -/
def readUnit : Reader Nat := fun
  | a :: b :: c :: d :: cs =>
    match unitValue? a b c d with
    | some n => .ok (n, cs)
    | none => .error .malformed
  | cs => if octets cs < 4 then .error .truncated else .error .malformed

/-- Whether a number is the first half of a code point beyond the first plane. -/
def isFirstHalf (n : Nat) : Bool :=
  0xD800 ≤ n && n ≤ 0xDBFF

/-- Whether a number is the second half of a code point beyond the first plane. -/
def isSecondHalf (n : Nat) : Bool :=
  0xDC00 ≤ n && n ≤ 0xDFFF

/-- The character whose code point was given in two halves. -/
def joinHalves (first second : Nat) : Char :=
  Char.ofNat (0x10000 + (first - 0xD800) * 0x400 + (second - 0xDC00))

/-- Reads the second half of a code point, which is an escape of its own. -/
def readSecondHalf : Reader Nat := do
  expectAll ['\\', 'u']
  let n ← readUnit
  if isSecondHalf n then pure n else throw .malformed

/-- Reads the digits of an escaped code point; a half has to come with the other one. -/
def readCodePoint : Reader Char := do
  let n ← readUnit
  if isSecondHalf n then throw .malformed
  else if isFirstHalf n then
    let m ← readSecondHalf
    pure (joinHalves n m)
  else pure (Char.ofNat n)

/-! ### Reading texts -/

/-- The escapes of one letter, each with the character that it stands for. -/
def shortEscapes : List (Char × Char) :=
  [('\"', '\"'), ('\\', '\\'), ('/', '/'), ('b', '\x08'), ('f', '\x0c'), ('n', '\n'), ('r', '\r'),
    ('t', '\t')]

/-- The character that a one-letter escape stands for. -/
def shortEscape? (c : Char) : Option Char :=
  shortEscapes.lookup c

/-- Reads what follows a reverse solidus. -/
def readEscape : Reader Char := do
  let c ← next
  if c = 'u' then readCodePoint
  else
    match shortEscape? c with
    | some d => pure d
    | none => throw .malformed

/-- Reads one written character, or the closing quote. -/
def element : Reader (Option Char) := do
  let c ← next
  if c = '\"' then pure none
  else if c = '\\' then do
    let d ← readEscape
    pure (some d)
  else if c.toNat < 0x20 then throw .malformed
  else pure (some c)

theorem shrinks_readUnit : Shrinks readUnit := by
  intro cs n rest h
  unfold readUnit at h
  simp only [StateT.run] at h
  split at h
  next a b c d cs =>
    split at h
    · cases h
      simp only [List.length_cons]
      omega
    · cases h
  next cs _ => split at h <;> cases h

theorem shrinks_readCodePoint : Shrinks readCodePoint := by
  have hsecond : Shrinks readSecondHalf :=
    shrinks_bind (shrinks_expectAll _) fun _ =>
      shrinks_bind shrinks_readUnit fun _ => shrinks_ite (shrinks_pure _) (shrinks_throw _)
  exact shrinks_bind shrinks_readUnit fun _ =>
    shrinks_ite (shrinks_throw _)
      (shrinks_ite (shrinks_bind hsecond fun _ => shrinks_pure _) (shrinks_pure _))

theorem shrinks_readEscape : Shrinks readEscape := by
  refine shrinks_bind shrinks_next fun c => shrinks_ite shrinks_readCodePoint ?_
  split
  · exact shrinks_pure _
  · exact shrinks_throw _

/-- Every written character takes up text. -/
theorem length_lt_of_element {cs rest : List Char} {c : Option Char}
    (h : element.run cs = .ok (c, rest)) : rest.length < cs.length :=
  length_lt_of_next_bind
    (fun _ => shrinks_ite (shrinks_pure _)
      (shrinks_ite (shrinks_bind shrinks_readEscape fun _ => shrinks_pure _)
        (shrinks_ite (shrinks_throw _) (shrinks_pure _)))) h

/-- Reads the characters up to the closing quote and the quote itself. -/
def rest (cs : List Char) : Except Fault (List Char × List Char) :=
  match _h : element.run cs with
  | .error fault => .error fault
  | .ok (none, behind) => .ok ([], behind)
  | .ok (some c, behind) =>
    match rest behind with
    | .error fault => .error fault
    | .ok (text, behind) => .ok (c :: text, behind)
termination_by cs.length
decreasing_by exact length_lt_of_element _h

/-- Nothing but the quote is left: the text is empty. -/
theorem rest_of_none {cs behind : List Char} (h : element.run cs = .ok (none, behind)) :
    rest cs = .ok ([], behind) := by
  rw [rest]
  split
  next fault heq => exact absurd (h.symm.trans heq) (by simp)
  next behind' heq =>
    cases h.symm.trans heq
    rfl
  next c behind' heq => exact absurd (h.symm.trans heq) (by simp)

/-- A written character comes first in the text, before the rest of it. -/
theorem rest_of_some {cs mid behind text : List Char} {c : Char}
    (h : element.run cs = .ok (some c, mid)) (hrest : rest mid = .ok (text, behind)) :
    rest cs = .ok (c :: text, behind) := by
  rw [rest]
  split
  next fault heq => exact absurd (h.symm.trans heq) (by simp)
  next behind' heq => exact absurd (h.symm.trans heq) (by simp)
  next c' mid' heq =>
    cases h.symm.trans heq
    rw [hrest]

/-- Reads a text whose opening quote has been read. -/
def read : Reader String := fun cs =>
  match rest cs with
  | .error fault => .error fault
  | .ok (text, behind) => .ok (String.ofList text, behind)

/-- A text takes up at least its closing quote. -/
theorem length_lt_of_rest {cs text behind : List Char} (h : rest cs = .ok (text, behind)) :
    behind.length < cs.length := by
  fun_induction rest cs generalizing text behind with
  | case1 cs fault heq => cases h
  | case2 cs behind' heq =>
    cases h
    exact length_lt_of_element heq
  | case3 cs c mid heq fault hrest => cases h
  | case4 cs c mid heq text' behind' hrest ih =>
    cases h
    exact Nat.lt_trans (ih hrest) (length_lt_of_element heq)

theorem shrinks_read : Shrinks read := by
  intro cs text behind h
  simp only [read, StateT.run] at h
  split at h
  · cases h
  next heq =>
    cases h
    exact Nat.le_of_lt (length_lt_of_rest heq)

end Boarding.Document.Literal
