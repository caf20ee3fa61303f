import Boarding.Proofs.Contract
import Boarding.Proofs.Issuing
import Boarding.Session.Step

/-!
What the slots of a session can be relied on for.

A step changes the state in one of three ways (`Change`): not at all, by filling in the form, or by
putting a verdict into one slot, and then the verdict was either just given on some form or held by
a slot before. Whatever is on the form does not matter, so the soundness of verdicts is carried
along every run by induction.

* `change_step`: the three ways.
* `sound_run`: soundness is kept over any list of steps.
* `slots_sound_after`: what every slot holds after any steps, and what follows for reissuing it.
-/

namespace Boarding.Session

open Document

namespace State

/-- The state that a session has come to after some steps. -/
def after (steps : List Step) : State := (initial.run steps).1

/-! ### Steps on slots -/

section OnSlot

variable {state : State} {slot : Nat}

theorem onSlot_of_none (h : state.slots.get? slot = none) (act : Verdict → State × Answer) :
    state.onSlot slot act = (state, .emptySlot) := by
  rw [onSlot, h]

theorem onSlot_of_some {verdict : Verdict} (h : state.slots.get? slot = some verdict)
    (act : Verdict → State × Answer) : state.onSlot slot act = act verdict := by
  rw [onSlot, h]

theorem onPass_of_issued {pass : Pass} (h : state.slots.get? slot = some (.issued pass))
    (act : Pass → State × Answer) : state.onPass slot act = act pass := by
  rw [onPass, onSlot_of_some h]

/-- A property of the state after a step on a slot, for an empty and for a filled slot. -/
theorem onSlot_induction {P : State → Prop} {act : Verdict → State × Answer} (hempty : P state)
    (hact : ∀ verdict, state.slots.get? slot = some verdict → P (act verdict).1) :
    P (state.onSlot slot act).1 := by
  cases h : state.slots.get? slot with
  | none =>
    rw [onSlot_of_none h]
    exact hempty
  | some verdict =>
    rw [onSlot_of_some h]
    exact hact verdict h

theorem onPass_induction {P : State → Prop} {act : Pass → State × Answer} (hother : P state)
    (hact : ∀ pass, state.slots.get? slot = some (.issued pass) → P (act pass).1) :
    P (state.onPass slot act).1 := by
  refine onSlot_induction hother fun verdict h => ?_
  cases verdict with
  | rejected cause => exact hother
  | issued pass => exact hact pass h

end OnSlot

/-! ### What a step changes -/

/-- Where the verdict that a step puts into a slot comes from. -/
inductive Enters (state : State) : Verdict → Prop where
  | given (form : Form) : Enters state (issue form)
  | held {slot : Nat} {verdict : Verdict} (h : state.slots.get? slot = some verdict) :
      Enters state verdict

/-- What a step may do to the state. -/
inductive Change (state : State) : State → Prop where
  | none : Change state state
  | form (form : Form) : Change state { state with form := form }
  | slot (slot : Nat) {verdict : Verdict} (h : Enters state verdict) :
      Change state { state with slots := state.slots.put slot verdict }

theorem change_step (state : State) (s : Step) : Change state (state.step s).1 := by
  cases s with
  | enter field text => exact .form _
  | issue slot entry =>
    refine .slot slot ?_
    rw [Entry.issue_eq]
    exact .given state.form
  | reissue slot => exact onPass_induction .none fun pass _ => .none
  | load slot => exact onPass_induction .none fun pass _ => .form _
  | look slot => exact onSlot_induction .none fun verdict _ => .none
  | copy slot target => exact onSlot_induction .none fun verdict h => .slot target (.held h)
  | write slot => exact onPass_induction .none fun pass _ => .none
  | receive slot text =>
    simp only [step]
    split
    next => exact .none
    next pass hpass =>
      obtain ⟨form, rest, -, -, hverdict⟩ := outcome_receive_eq_pass_iff.mp hpass
      rw [← hverdict]
      exact .slot slot (.given form)
  | compare slot other =>
    exact onSlot_induction .none fun verdict _ => onSlot_induction .none fun verdict' _ => .none
  | count => exact .none

/-! ### Sound states -/

/-- Every slot in use holds a sound verdict. -/
def Sound (state : State) : Prop :=
  ∀ slot verdict, state.slots.get? slot = some verdict → verdict.Sound

theorem sound_initial : initial.Sound := by
  intro slot verdict h
  cases h

theorem Enters.sound {state : State} {verdict : Verdict} (h : state.Sound)
    (henters : Enters state verdict) : verdict.Sound := by
  cases henters with
  | given form => exact issue_sound form
  | held hslot => exact h _ _ hslot

theorem Change.sound {state next : State} (h : state.Sound) (hchange : Change state next) :
    next.Sound := by
  cases hchange with
  | none => exact h
  | form form => exact h
  | slot slot henters =>
    intro other held hheld
    rw [Slots.get?_put] at hheld
    split at hheld
    next =>
      cases hheld
      exact henters.sound h
    next => exact h other held hheld

theorem sound_step {state : State} (h : state.Sound) (s : Step) : (state.step s).1.Sound :=
  (change_step state s).sound h

theorem sound_run {state : State} (h : state.Sound) (steps : List Step) :
    (state.run steps).1.Sound := by
  induction steps generalizing state with
  | nil => exact h
  | cons s steps ih =>
    rw [run_cons]
    exact ih (sound_step h s)

theorem sound_after (steps : List Step) : (after steps).Sound :=
  sound_run sound_initial steps

/-! ### Passes in slots -/

section Pass

variable {state : State} {slot : Nat} {pass : Pass}

theorem step_reissue (hsound : pass.Sound) (h : state.slots.get? slot = some (.issued pass)) :
    state.step (.reissue slot) = (state, .reissued (.issued pass) true .issued) := by
  have hverdict : issue pass.toForm = .issued pass := issue_toForm_iff.mpr hsound
  rw [step, onPass_of_issued h, hverdict]
  show (state, Answer.reissued _ (Verdict.issued pass == .issued pass) .issued) = _
  rw [beq_self_eq_true]

/-- After loading a pass and issuing from the form, the slot issued into holds that pass. -/
theorem get?_run_load_issue (hsound : pass.Sound)
    (h : state.slots.get? slot = some (.issued pass)) (target : Nat) (entry : Entry) :
    (state.run [.load slot, .issue target entry]).1.slots.get? target = some (.issued pass) := by
  have hload : (state.step (.load slot)).1 = { state with form := pass.toForm } := by
    rw [step, onPass_of_issued h]
  have hverdict : entry.issue pass.toForm = .issued pass := by
    rw [Entry.issue_eq, issue_toForm_iff.mpr hsound]
  rw [run_cons, run_cons, run_nil, hload, step, Slots.get?_put, if_pos rfl, hverdict]

end Pass

/-- **What slots hold, after any steps.** Every pass in a slot has four texts that are not empty and
have no white space at either end, with three letters for the airport and two to eight letters or
digits for the flight; every rejection in a slot reports a missing field, or a text that is not
empty, has no white space at either end and fails the check. So reissuing a slot with a pass gives
the same pass, and loading it and issuing from the form stores it again. -/
theorem slots_sound_after (steps : List Step) :
    (∀ slot pass, (after steps).slots.get? slot = some (.issued pass) → pass.Sound) ∧
    (∀ slot cause, (after steps).slots.get? slot = some (.rejected cause) → cause.Sound) ∧
    (∀ slot pass, (after steps).slots.get? slot = some (.issued pass) →
      (after steps).step (.reissue slot) =
        (after steps, .reissued (.issued pass) true .issued)) ∧
    (∀ slot pass target entry, (after steps).slots.get? slot = some (.issued pass) →
      ((after steps).run [.load slot, .issue target entry]).1.slots.get? target =
        some (.issued pass)) := by
  have hsound := sound_after steps
  refine ⟨?_, ?_, ?_, ?_⟩
  · intro slot pass h
    exact hsound slot _ h
  · intro slot cause h
    exact hsound slot _ h
  · intro slot pass h
    exact step_reissue (hsound slot _ h) h
  · intro slot pass target entry h
    exact get?_run_load_issue (hsound slot _ h) h target entry

/-- A rejection in slot 0, and in slot 1 a pass that was received as a list. -/
def mixedSteps : List Step :=
  [.enter .passengerName "Ann", .enter .airportCode " Adelaide\n", .enter .flightNumber "QF1",
    .enter .gateNumber "2", .issue 0 .conversion,
    .receive 1 "[\" Ann \", \"ADL\", \"QF1\", \"2\"]"]

theorem slots_sound_after_mixed :
    (Rejection.airportCode "Adelaide").Sound ∧
      (after mixedSteps).step (.reissue 1) =
        (after mixedSteps, .reissued (.issued ⟨"Ann", "ADL", "QF1", "2"⟩) true .issued) := by
  have hrejected : (after mixedSteps).slots.get? 0 =
      some (.rejected (.airportCode "Adelaide")) := by
    decide +kernel
  have hissued : (after mixedSteps).slots.get? 1 = some (.issued ⟨"Ann", "ADL", "QF1", "2"⟩) := by
    decide +kernel
  exact ⟨(slots_sound_after mixedSteps).2.1 0 _ hrejected,
    (slots_sound_after mixedSteps).2.2.1 1 _ hissued⟩

end State

end Boarding.Session
