import Boarding.Document.Printer
import Boarding.Document.Receipt
import Boarding.Session.Slots

/-!
Sessions at the desk. A session has one form, which is filled in text by text, and numbered slots
that keep verdicts. Every step gives an answer, and a step that cannot be taken, because a slot is
empty or holds no pass, says so and changes nothing.

* `State.step`: one step.
* `State.run`: a list of steps with their answers.
-/

namespace Boarding.Session

open Document

/-- What a session keeps between steps. -/
structure State where
  form : Form
  slots : Slots Verdict

/-- What can be done in a session. -/
inductive Step where
  /-- Types a text into the form. -/
  | enter (field : Field) (text : String)
  /-- Issues a pass from the form and keeps the verdict. -/
  | issue (slot : Nat) (entry : Entry := .desk)
  /-- Issues the pass of a slot once more and keeps nothing. -/
  | reissue (slot : Nat)
  /-- Copies the pass of a slot into the form. -/
  | load (slot : Nat)
  /-- Shows a slot. -/
  | look (slot : Nat)
  /-- Copies one slot to another. -/
  | copy (slot target : Nat)
  /-- Writes the pass of a slot as a document. -/
  | write (slot : Nat)
  /-- Receives a document and keeps the pass that it brings. -/
  | receive (slot : Nat) (text : String)
  /-- Compares two slots. -/
  | compare (slot other : Nat)
  /-- Counts the filled slots and the different passes in them. -/
  | count
deriving DecidableEq

/-- What a step answers. -/
inductive Answer where
  /-- The form after the step. -/
  | form (form : Form)
  /-- What a slot holds. -/
  | verdict (verdict : Verdict)
  /-- The verdict of an attempt, with its event. -/
  | issued (verdict : Verdict) (event : Event)
  /-- The verdict of a repeated attempt, whether it is the pass of the slot again, and its event. -/
  | reissued (verdict : Verdict) (same : Bool) (event : Event)
  /-- A written document. -/
  | document (text : String)
  /-- What a document brought. -/
  | received (receipt : Receipt)
  /-- Whether two slots hold the same. -/
  | compared (equal : Bool)
  /-- The number of filled slots and of different passes in them. -/
  | counted (filled passes : Nat)
  /-- The slot is empty. -/
  | emptySlot
deriving DecidableEq

namespace State

/-- The state in which a session starts. -/
def initial : State := ⟨.empty, .empty⟩

/-- The passes that the slots hold. -/
def passes (state : State) : List Pass :=
  state.slots.values.filterMap Verdict.pass?

/-- The answer to a step on a filled slot, and the state after it. -/
def onSlot (state : State) (slot : Nat) (act : Verdict → State × Answer) : State × Answer :=
  match state.slots.get? slot with
  | none => (state, .emptySlot)
  | some verdict => act verdict

/-- The answer to a step on a slot that holds a pass; a rejection is answered as it stands. -/
def onPass (state : State) (slot : Nat) (act : Pass → State × Answer) : State × Answer :=
  state.onSlot slot fun
    | .rejected cause => (state, .verdict (.rejected cause))
    | .issued pass => act pass

/-- Takes one step. -/
def step (state : State) : Step → State × Answer
  | .enter field text =>
    let form := state.form.set field text
    ({ state with form := form }, .form form)
  | .issue slot entry =>
    let verdict := entry.issue state.form
    ({ state with slots := state.slots.put slot verdict }, .issued verdict verdict.event)
  | .reissue slot => state.onPass slot fun pass =>
    let verdict := Boarding.issue pass.toForm
    (state, .reissued verdict (verdict == .issued pass) verdict.event)
  | .load slot => state.onPass slot fun pass =>
    ({ state with form := pass.toForm }, .form pass.toForm)
  | .look slot => state.onSlot slot fun verdict => (state, .verdict verdict)
  | .copy slot target => state.onSlot slot fun verdict =>
    ({ state with slots := state.slots.put target verdict }, .verdict verdict)
  | .write slot => state.onPass slot fun pass => (state, .document (Document.write .compact pass))
  | .receive slot text =>
    let receipt := Document.receive text
    match receipt.outcome with
    | .refused _ => (state, .received receipt)
    | .pass pass => ({ state with slots := state.slots.put slot (.issued pass) }, .received receipt)
  | .compare slot other => state.onSlot slot fun verdict => state.onSlot other fun verdict' =>
    (state, .compared (verdict == verdict'))
  | .count => (state, .counted state.slots.filled state.passes.eraseDups.length)

/-- Takes steps one after the other and gives their answers in order. -/
def run (state : State) : List Step → State × List Answer
  | [] => (state, [])
  | s :: steps =>
    let first := state.step s
    let others := first.1.run steps
    (others.1, first.2 :: others.2)

@[simp] theorem run_nil (state : State) : state.run [] = (state, []) := rfl

@[simp] theorem run_cons (state : State) (s : Step) (steps : List Step) :
    state.run (s :: steps) =
      (((state.step s).1.run steps).1, (state.step s).2 :: ((state.step s).1.run steps).2) := rfl

/-- Every step gives one answer. -/
theorem length_run (state : State) (steps : List Step) :
    (state.run steps).2.length = steps.length := by
  induction steps generalizing state with
  | nil => rfl
  | cons s steps ih => simp [ih]

end State

end Boarding.Session
