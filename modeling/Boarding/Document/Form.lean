import Boarding.Document.Entries
import Boarding.Document.Foreign

/-!
Forms as documents. A form is an object that gives each field its text under its name, in any
order, or a list of the four texts in the order of the fields.

A key is looked at as soon as it is read, before the colon: one that names no field, or a field
that has its text already, ends the reading there. A field without a key is missed only at the
closing bracket. A list is measured as it is read, so a text of the wrong kind in it comes before
its being too short, and a fifth element is no better than any other junk before the bracket.

* `readMembers`, `readElements`: the two ways of giving the texts.
* `readForm`: either of them.
-/

namespace Boarding.Document

open Reader

/-- Carries a complaint about the shape over to a reader. -/
def accept {α : Type} : Except Shape α → Reader α
  | .ok a => pure a
  | .error cause => refuse cause

/-! ### Objects -/

/-- Reads the next key of an object, or its closing bracket. A comma is due before every key but
the first. -/
def readKey (due : Bool) : Reader (Option String) := do
  space
  let c ← look
  if c = '\x7d' then do
    let _ ← next
    pure none
  else if due then do
    expect ','
    space
    expect '\"'
    let key ← Literal.read
    pure (some key)
  else do
    expect '\"'
    let key ← Literal.read
    pure (some key)

/-- Reads the next member of an object, or its closing bracket. -/
def readMember (entries : Entries) : Reader (Option (Field × String)) := do
  match ← readKey (!entries.isEmpty) with
  | none => pure none
  | some key =>
    let field ← accept (entries.fieldFor key)
    space
    expect ':'
    space
    let text ← readText
    pure (some (field, text))

/-- A value of the wrong kind is never read successfully. -/
theorem shrinks_refuseForeign {α : Type} (wanted : Wanted) :
    Shrinks (refuseForeign wanted : Reader α) := by
  intro cs a rest h
  obtain ⟨found, mid, -, h₂⟩ := run_bind_eq_ok_iff.mp h
  cases h₂

theorem shrinks_readText : Shrinks readText :=
  shrinks_bind shrinks_look fun _ =>
    shrinks_ite (shrinks_bind shrinks_next fun _ => Literal.shrinks_read)
      (shrinks_refuseForeign _)

theorem shrinks_accept {α : Type} (a : Except Shape α) : Shrinks (accept a) := by
  cases a with
  | ok a => exact shrinks_pure a
  | error cause => exact shrinks_throw _

/-- A key takes up at least its quotes. -/
theorem length_lt_of_readKey {due : Bool} {cs rest : List Char} {key : Option String}
    (h : (readKey due).run cs = .ok (key, rest)) : rest.length < cs.length := by
  have hquoted : ∀ {cs : List Char} {key : Option String} {rest : List Char},
      (do expect '\"'; let key ← Literal.read; pure (some key) : Reader (Option String)).run cs
        = .ok (key, rest) → rest.length < cs.length := by
    intro cs key rest h
    obtain ⟨u, mid, h₁, h₂⟩ := run_bind_eq_ok_iff.mp h
    obtain ⟨s, mid', h₃, h₄⟩ := run_bind_eq_ok_iff.mp h₂
    have hmid := shrinks_expect _ _ _ _ h₁
    have hmid' : mid'.length < mid.length := by
      simp only [Literal.read, StateT.run] at h₃
      split at h₃
      · cases h₃
      next heq =>
        cases h₃
        exact Literal.length_lt_of_rest heq
    cases h₄
    omega
  obtain ⟨u, mid, h₁, h₂⟩ := run_bind_eq_ok_iff.mp h
  obtain ⟨c, mid', h₃, h₄⟩ := run_bind_eq_ok_iff.mp h₂
  have hmid := shrinks_space _ _ _ h₁
  have hmid' := shrinks_look _ _ _ h₃
  split at h₄
  · have := length_lt_of_next_bind (fun _ => shrinks_pure _) h₄
    omega
  · split at h₄
    · obtain ⟨_, mid₁, h₅, h₆⟩ := run_bind_eq_ok_iff.mp h₄
      obtain ⟨_, mid₂, h₇, h₈⟩ := run_bind_eq_ok_iff.mp h₆
      have := shrinks_expect _ _ _ _ h₅
      have := shrinks_space _ _ _ h₇
      have := hquoted h₈
      omega
    · have := hquoted h₄
      omega

/-- A member takes up text. -/
theorem length_lt_of_readMember {entries : Entries} {cs rest : List Char}
    {entry : Option (Field × String)} (h : (readMember entries).run cs = .ok (entry, rest)) :
    rest.length < cs.length := by
  obtain ⟨key, mid, h₁, h₂⟩ := run_bind_eq_ok_iff.mp h
  have hmid := length_lt_of_readKey h₁
  have hrest : rest.length ≤ mid.length := by
    split at h₂
    · exact shrinks_pure _ _ _ _ h₂
    · exact shrinks_bind (shrinks_accept _) (fun _ => shrinks_bind shrinks_space fun _ =>
        shrinks_bind (shrinks_expect _) fun _ => shrinks_bind shrinks_space fun _ =>
          shrinks_bind shrinks_readText fun _ => shrinks_pure _) _ _ _ h₂
  omega

/-- Reads the members of an object up to its closing bracket, after those read before. -/
def readMembers (entries : Entries) (cs : List Char) : Except Fault (Entries × List Char) :=
  match _h : (readMember entries).run cs with
  | .error fault => .error fault
  | .ok (none, rest) => .ok (entries, rest)
  | .ok (some entry, rest) => readMembers (entries ++ [entry]) rest
termination_by cs.length
decreasing_by exact length_lt_of_readMember _h

/-- At the closing bracket the members are complete. -/
theorem readMembers_of_none {entries : Entries} {cs rest : List Char}
    (h : (readMember entries).run cs = .ok (none, rest)) :
    readMembers entries cs = .ok (entries, rest) := by
  rw [readMembers]
  split
  next fault heq => exact absurd (h.symm.trans heq) (by simp)
  next rest' heq =>
    cases h.symm.trans heq
    rfl
  next entry rest' heq => exact absurd (h.symm.trans heq) (by simp)

/-- A member is added to the entries before the next one is read. -/
theorem readMembers_of_some {entries : Entries} {entry : Field × String} {cs rest : List Char}
    (h : (readMember entries).run cs = .ok (some entry, rest)) :
    readMembers entries cs = readMembers (entries ++ [entry]) rest := by
  rw [readMembers]
  split
  next fault heq => exact absurd (h.symm.trans heq) (by simp)
  next rest' heq => exact absurd (h.symm.trans heq) (by simp)
  next entry' rest' heq =>
    cases h.symm.trans heq
    rfl

/-- A fault in a member is the fault of the object. -/
theorem readMembers_of_error {entries : Entries} {cs : List Char} {fault : Fault}
    (h : (readMember entries).run cs = .error fault) : readMembers entries cs = .error fault := by
  rw [readMembers]
  split
  next fault' heq =>
    cases h.symm.trans heq
    rfl
  next rest' heq => exact absurd (h.symm.trans heq) (by simp)
  next entry rest' heq => exact absurd (h.symm.trans heq) (by simp)

/-! ### Lists -/

/-- Reads a text for each of the given fields and the closing bracket, after the texts read
before. -/
def readElements : List Field → Entries → Reader Entries
  | [], entries => do
    space
    expect ']'
    pure entries
  | field :: fields, entries => do
    space
    let c ← look
    if c = ']' then refuse (.shortList entries.length)
    else if entries.isEmpty then do
      let text ← readText
      readElements fields (entries ++ [(field, text)])
    else do
      expect ','
      space
      let text ← readText
      readElements fields (entries ++ [(field, text)])

/-! ### Either -/

/-- Reads a form. -/
def readForm : Reader Form := do
  space
  let c ← look
  if c = '\x7b' then do
    let _ ← next
    let entries ← readMembers []
    accept entries.toForm
  else if c = '[' then do
    let _ ← next
    let entries ← readElements Field.all []
    accept entries.toForm
  else refuseForeign .form

end Boarding.Document
