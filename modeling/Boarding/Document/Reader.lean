import Boarding.Document.Fault
import Boarding.Document.Space

/-!
Readers of documents. A reader takes the text still to be read and gives back a value with the
text behind it, or the first fault it meets. It looks one character ahead at most, except where
four characters are wanted at once, and so a fault is found as early as it can be.

* `Reader.run_bind_eq_ok_iff`: one reader after another succeeds when both do, each on its part.
* `Reader.Shrinks`: a reader that never gives back more text than it was given; the loops over
  literals and objects end because of it.
-/

namespace Boarding.Document

/-- A reader of values. -/
abbrev Reader := StateT (List Char) (Except Fault)

namespace Reader

/-- Reads the next character; there has to be one. -/
def next : Reader Char := fun
  | [] => .error .truncated
  | c :: cs => .ok (c, cs)

/-- Looks at the next character without reading it; there has to be one. -/
def look : Reader Char := fun
  | [] => .error .truncated
  | c :: cs => .ok (c, c :: cs)

/-- Reads one given character. -/
def expect (mark : Char) : Reader Unit := do
  let c ← next
  if c = mark then pure () else throw .malformed

/-- Reads the given characters one after the other. -/
def expectAll : List Char → Reader Unit
  | [] => pure ()
  | mark :: marks => do
    expect mark
    expectAll marks

/-- Reads past space. -/
def space : Reader Unit := fun cs => .ok ((), skipSpace cs)

/-- Gives up because the document has the wrong shape. -/
def refuse {α : Type} (cause : Shape) : Reader α :=
  throw (.shape cause)

/-! ### Running readers -/

section

variable {α β : Type} {cs rest : List Char}

@[simp] theorem run_next_nil : next.run [] = .error .truncated := rfl

@[simp] theorem run_next_cons (c : Char) : next.run (c :: cs) = .ok (c, cs) := rfl

@[simp] theorem run_look_nil : look.run [] = .error .truncated := rfl

@[simp] theorem run_look_cons (c : Char) : look.run (c :: cs) = .ok (c, c :: cs) := rfl

@[simp] theorem run_space : space.run cs = .ok ((), skipSpace cs) := rfl

@[simp] theorem run_throw (fault : Fault) : (throw fault : Reader α).run cs = .error fault := rfl

@[simp] theorem run_refuse (cause : Shape) :
    (refuse cause : Reader α).run cs = .error (.shape cause) := rfl

theorem run_bind_of_ok {x : Reader α} {f : α → Reader β} {a : α} (h : x.run cs = .ok (a, rest)) :
    (x >>= f).run cs = (f a).run rest := by
  rw [StateT.run_bind, h]
  rfl

theorem run_bind_of_error {x : Reader α} {f : α → Reader β} {fault : Fault}
    (h : x.run cs = .error fault) : (x >>= f).run cs = .error fault := by
  rw [StateT.run_bind, h]
  rfl

/-- One reader after another succeeds exactly when both do, the second on what the first left. -/
theorem run_bind_eq_ok_iff {x : Reader α} {f : α → Reader β} {b : β} :
    (x >>= f).run cs = .ok (b, rest) ↔
      ∃ a mid, x.run cs = .ok (a, mid) ∧ (f a).run mid = .ok (b, rest) := by
  cases h : x.run cs with
  | error fault => simp [run_bind_of_error h]
  | ok p =>
    obtain ⟨a, mid⟩ := p
    rw [run_bind_of_ok h]
    constructor
    · exact fun hf => ⟨a, mid, rfl, hf⟩
    · rintro ⟨a', mid', heq, hf⟩
      cases heq
      exact hf

@[simp] theorem run_expect_nil (mark : Char) : (expect mark).run [] = .error .truncated := rfl

@[simp] theorem run_expect_self (mark : Char) : (expect mark).run (mark :: cs) = .ok ((), cs) := by
  rw [expect, run_bind_of_ok (run_next_cons mark), if_pos rfl]
  rfl

theorem run_expect_of_ne {mark c : Char} (h : c ≠ mark) :
    (expect mark).run (c :: cs) = .error .malformed := by
  rw [expect, run_bind_of_ok (run_next_cons c), if_neg h]
  rfl

end

/-! ### What is left to read -/

/-- A reader that never gives back more text than it was given. -/
def Shrinks {α : Type} (x : Reader α) : Prop :=
  ∀ cs a rest, x.run cs = .ok (a, rest) → rest.length ≤ cs.length

section

variable {α β : Type}

theorem shrinks_pure (a : α) : Shrinks (pure a : Reader α) := by
  intro cs b rest h
  cases h
  exact Nat.le_refl _

theorem shrinks_throw (fault : Fault) : Shrinks (throw fault : Reader α) := by
  intro cs b rest h
  cases h

theorem shrinks_bind {x : Reader α} {f : α → Reader β} (hx : Shrinks x)
    (hf : ∀ a, Shrinks (f a)) : Shrinks (x >>= f) := by
  intro cs b rest h
  obtain ⟨a, mid, h₁, h₂⟩ := run_bind_eq_ok_iff.mp h
  exact Nat.le_trans (hf a _ _ _ h₂) (hx _ _ _ h₁)

theorem shrinks_ite {p : Prop} [Decidable p] {x y : Reader α} (hx : Shrinks x) (hy : Shrinks y) :
    Shrinks (if p then x else y) := by
  split
  · exact hx
  · exact hy

theorem length_lt_of_next {cs rest : List Char} {c : Char} (h : next.run cs = .ok (c, rest)) :
    rest.length < cs.length := by
  cases cs with
  | nil => cases h
  | cons d cs =>
    cases h
    exact Nat.lt_succ_self _

theorem shrinks_next : Shrinks next :=
  fun _ _ _ h => Nat.le_of_lt (length_lt_of_next h)

theorem shrinks_look : Shrinks look := by
  intro cs c rest h
  cases cs with
  | nil => cases h
  | cons d cs =>
    cases h
    exact Nat.le_refl _

theorem shrinks_space : Shrinks space := by
  intro cs a rest h
  cases h
  exact length_skipSpace_le cs

theorem shrinks_expect (mark : Char) : Shrinks (expect mark) :=
  shrinks_bind shrinks_next fun _ => shrinks_ite (shrinks_pure _) (shrinks_throw _)

theorem shrinks_expectAll (marks : List Char) : Shrinks (expectAll marks) := by
  induction marks with
  | nil => exact shrinks_pure ()
  | cons mark marks ih => exact shrinks_bind (shrinks_expect mark) fun _ => ih

/-- A reader that starts by reading a character gives back less text than it was given. -/
theorem length_lt_of_next_bind {f : Char → Reader β} (hf : ∀ c, Shrinks (f c))
    {cs rest : List Char} {b : β} (h : (next >>= f).run cs = .ok (b, rest)) :
    rest.length < cs.length := by
  obtain ⟨c, mid, h₁, h₂⟩ := run_bind_eq_ok_iff.mp h
  exact Nat.lt_of_le_of_lt (hf c _ _ _ h₂) (length_lt_of_next h₁)

end

end Reader

end Boarding.Document
