import Boarding.Proofs.Session

/-!
Failed steps leave no trace.

A step fails in a state (`State.Fails`) when it finds a slot empty, when the document that it is
given is refused, at whatever stage of reading and checking, or when it asks for the pass of a slot
that holds a rejection. None of this changes the form or a slot, so whatever the session does later
goes on as if the step had not been taken. An attempt to issue a pass does not fail in this sense:
a rejection is kept like a pass, in its own slot.

* `fst_step_of_fails`: a failed step leaves the state as it is.
* `run_of_fails`: a failed step can be struck out of a session.
* `failures_leave_no_trace`: both, with what the other steps may change.
-/

namespace Boarding.Session

open Document

/-- The steps that answer a question and keep nothing. -/
inductive Step.Asks : Step → Prop where
  | reissue (slot : Nat) : Asks (.reissue slot)
  | look (slot : Nat) : Asks (.look slot)
  | write (slot : Nat) : Asks (.write slot)
  | compare (slot other : Nat) : Asks (.compare slot other)
  | count : Asks .count

namespace State

variable {state : State} {s : Step}

/-! ### Steps that change nothing -/

theorem fst_step_of_asks (h : s.Asks) : (state.step s).1 = state := by
  cases h with
  | reissue slot => exact onPass_induction (P := (· = state)) rfl fun pass _ => rfl
  | look slot => exact onSlot_induction (P := (· = state)) rfl fun verdict _ => rfl
  | write slot => exact onPass_induction (P := (· = state)) rfl fun pass _ => rfl
  | compare slot other =>
    exact onSlot_induction (P := (· = state)) rfl fun verdict _ =>
      onSlot_induction (P := (· = state)) rfl fun verdict' _ => rfl
  | count => rfl

theorem step_receive_of_refused {text : String} {why : Refusal}
    (h : (receive text).outcome = .refused why) (slot : Nat) :
    state.step (.receive slot text) = (state, .received (receive text)) := by
  simp only [step, h]

theorem onPass_of_rejected {slot : Nat} {cause : Rejection}
    (h : state.slots.get? slot = some (.rejected cause)) (act : Pass → State × Answer) :
    state.onPass slot act = (state, .verdict (.rejected cause)) := by
  rw [onPass, onSlot_of_some h]

/-- A rejection is answered as it stands by every step that asks for a pass. -/
theorem step_of_rejected {slot : Nat} {cause : Rejection}
    (h : state.slots.get? slot = some (.rejected cause))
    (hs : s ∈ [.load slot, .reissue slot, .write slot]) :
    state.step s = (state, .verdict (.rejected cause)) := by
  simp only [List.mem_cons, List.not_mem_nil, or_false] at hs
  rcases hs with rfl | rfl | rfl
  · rw [step, onPass_of_rejected h]
  · rw [step, onPass_of_rejected h]
  · rw [step, onPass_of_rejected h]

/-- Only an empty slot is answered as one, if the act on a filled slot never answers so. -/
theorem fst_onSlot_of_emptySlot {slot : Nat} {act : Verdict → State × Answer}
    (hact : ∀ verdict, (act verdict).2 ≠ .emptySlot)
    (h : (state.onSlot slot act).2 = .emptySlot) : (state.onSlot slot act).1 = state := by
  cases hslot : state.slots.get? slot with
  | none => rw [onSlot_of_none hslot]
  | some verdict =>
    rw [onSlot_of_some hslot] at h
    exact absurd h (hact verdict)

theorem fst_step_of_emptySlot (h : (state.step s).2 = .emptySlot) : (state.step s).1 = state := by
  cases s with
  | enter field text => cases h
  | issue slot entry => cases h
  | load slot =>
    refine fst_onSlot_of_emptySlot (fun verdict => ?_) h
    cases verdict with
    | rejected cause => exact nofun
    | issued pass => exact nofun
  | copy slot target => exact fst_onSlot_of_emptySlot (fun verdict => nofun) h
  | receive slot text =>
    simp only [step] at h
    split at h <;> cases h
  | reissue slot => exact fst_step_of_asks (.reissue slot)
  | look slot => exact fst_step_of_asks (.look slot)
  | write slot => exact fst_step_of_asks (.write slot)
  | compare slot other => exact fst_step_of_asks (.compare slot other)
  | count => exact fst_step_of_asks .count

/-- The step fails in the state. -/
inductive Fails (state : State) : Step → Prop where
  /-- A slot that it needs is empty. -/
  | emptySlot {s : Step} (h : (state.step s).2 = .emptySlot) : Fails state s
  /-- The document that it brings is refused. -/
  | refused (slot : Nat) {text : String} {why : Refusal}
      (h : (receive text).outcome = .refused why) : Fails state (.receive slot text)
  /-- There is a rejection where it needs a pass. -/
  | noPass {slot : Nat} {cause : Rejection} {s : Step}
      (h : state.slots.get? slot = some (.rejected cause))
      (hs : s ∈ [.load slot, .reissue slot, .write slot]) : Fails state s

theorem fst_step_of_fails (h : Fails state s) : (state.step s).1 = state := by
  cases h with
  | emptySlot h => exact fst_step_of_emptySlot h
  | refused slot h => rw [step_receive_of_refused h]
  | noPass h hs => rw [step_of_rejected h hs]

/-! ### Steps that change one thing -/

/-- `next` is `state` with the verdict in that slot: the form and the other slots are the same. -/
structure OnlySlot (state : State) (slot : Nat) (verdict : Verdict) (next : State) : Prop where
  form : next.form = state.form
  filled : next.slots.get? slot = some verdict
  others : ∀ other, other ≠ slot → next.slots.get? other = state.slots.get? other

theorem onlySlot_put (state : State) (slot : Nat) (verdict : Verdict) :
    OnlySlot state slot verdict { state with slots := state.slots.put slot verdict } := by
  refine ⟨rfl, ?_, fun other hne => ?_⟩
  · rw [Slots.get?_put, if_pos rfl]
  · rw [Slots.get?_put, if_neg hne]

theorem fst_step_issue (state : State) (slot : Nat) (entry : Entry) :
    (state.step (.issue slot entry)).1 =
      { state with slots := state.slots.put slot (issue state.form) } := by
  rw [step, Entry.issue_eq]

theorem fst_step_copy {slot : Nat} {verdict : Verdict}
    (h : state.slots.get? slot = some verdict) (target : Nat) :
    (state.step (.copy slot target)).1 =
      { state with slots := state.slots.put target verdict } := by
  rw [step, onSlot_of_some h]

theorem fst_step_receive {text : String} {pass : Pass} (h : (receive text).outcome = .pass pass)
    (slot : Nat) :
    (state.step (.receive slot text)).1 =
      { state with slots := state.slots.put slot (.issued pass) } := by
  simp only [step, h]

theorem fst_step_load {slot : Nat} {pass : Pass}
    (h : state.slots.get? slot = some (.issued pass)) :
    (state.step (.load slot)).1 = { state with form := pass.toForm } := by
  rw [step, onPass_of_issued h]

/-! ### Sessions with failed steps -/

theorem run_append (state : State) (before later : List Step) :
    state.run (before ++ later) =
      (((state.run before).1.run later).1,
        (state.run before).2 ++ ((state.run before).1.run later).2) := by
  induction before generalizing state with
  | nil => rfl
  | cons s before ih => rw [List.cons_append, run_cons, run_cons, ih, List.cons_append]

/-- **A failed step can be struck out of a session**: the session comes to the same state, and all
that is missing is the answer to that step. -/
theorem run_of_fails {before : List Step} (h : Fails (state.run before).1 s) (later : List Step) :
    state.run (before ++ later) =
      ((state.run (before ++ s :: later)).1,
        (state.run (before ++ s :: later)).2.eraseIdx before.length) := by
  have hlength := length_run state before
  rw [run_append, run_append, run_cons, fst_step_of_fails h, ← hlength,
    List.eraseIdx_append_of_length_le (Nat.le_refl _), Nat.sub_self, List.eraseIdx_cons_zero]

/-- **Failed steps leave no trace.** In every state a refused document, for whatever reason, changes
neither the form nor a slot, and neither does a step that finds a slot empty or one that needs a
pass and finds a rejection; so striking such a step out of a session changes nothing later on.
Issuing changes its own slot only, with a rejection as with a pass, and so does a document that
brings a pass; copying changes the slot copied to only; loading a pass changes the form only, to the
four texts of the pass; and the steps that ask change nothing. -/
theorem failures_leave_no_trace (state : State) :
    (∀ slot text why, (receive text).outcome = .refused why →
      state.step (.receive slot text) = (state, .received (receive text))) ∧
    (∀ s, (state.step s).2 = .emptySlot → (state.step s).1 = state) ∧
    (∀ slot cause, state.slots.get? slot = some (.rejected cause) →
      ∀ s ∈ [.load slot, .reissue slot, .write slot],
        state.step s = (state, .verdict (.rejected cause))) ∧
    (∀ before s later, Fails (state.run before).1 s →
      state.run (before ++ later) =
        ((state.run (before ++ s :: later)).1,
          (state.run (before ++ s :: later)).2.eraseIdx before.length)) ∧
    (∀ slot entry, OnlySlot state slot (issue state.form) (state.step (.issue slot entry)).1) ∧
    (∀ slot text pass, (receive text).outcome = .pass pass →
      OnlySlot state slot (.issued pass) (state.step (.receive slot text)).1) ∧
    (∀ slot target verdict, state.slots.get? slot = some verdict →
      OnlySlot state target verdict (state.step (.copy slot target)).1) ∧
    (∀ slot pass, state.slots.get? slot = some (.issued pass) →
      (state.step (.load slot)).1.slots = state.slots ∧
        ∀ field, (state.step (.load slot)).1.form.get field = pass.get field) ∧
    (∀ s : Step, s.Asks → (state.step s).1 = state) := by
  refine ⟨?_, ?_, ?_, ?_, ?_, ?_, ?_, ?_, ?_⟩
  · intro slot text why h
    exact step_receive_of_refused h slot
  · intro s h
    exact fst_step_of_emptySlot h
  · intro slot cause h s hs
    exact step_of_rejected h hs
  · intro before s later h
    exact run_of_fails h later
  · intro slot entry
    rw [fst_step_issue]
    exact onlySlot_put state slot _
  · intro slot text pass h
    rw [fst_step_receive h]
    exact onlySlot_put state slot _
  · intro slot target verdict h
    rw [fst_step_copy h]
    exact onlySlot_put state target verdict
  · intro slot pass h
    rw [fst_step_load h]
    exact ⟨rfl, fun field => rfl⟩
  · intro s h
    exact fst_step_of_asks h

/-- Texts that are refused: for a wrong mark, for their end, for their shape, for the form in them,
and for what stands behind a document whose pass was issued already. -/
def refusedTexts : List (String × Receipt) :=
  [("[\"Ann\"\x7d", ⟨.refused (.unreadable .malformed), []⟩),
    ("[\"Ann\",", ⟨.refused (.unreadable .truncated), []⟩),
    ("[\"Ann\"]", ⟨.refused (.unreadable (.shape (.shortList 1))), []⟩),
    ("[\"\\t\",\"ADL\",\"QF1\",\"2\"]x",
      ⟨.refused (.rejected (.missing .passengerName)), [.rejected .passengerName]⟩),
    ("[\"Ann\",\"ADL\",\"QF1\",\"2\"]x", ⟨.refused (.unreadable .malformed), [.issued]⟩)]

theorem failures_leave_no_trace_mixed :
    (∀ entry ∈ refusedTexts, (after mixedSteps).step (.receive 1 entry.1) =
      (after mixedSteps, .received entry.2)) ∧
    ((after mixedSteps).step (.copy 7 1)).1 = after mixedSteps ∧
    (after mixedSteps).step (.load 0) =
      (after mixedSteps, .verdict (.rejected (.airportCode "Adelaide"))) ∧
    (initial.run (mixedSteps ++ [.look 1])).1 =
      (initial.run (mixedSteps ++ [.write 0, .look 1])).1 ∧
    OnlySlot (after mixedSteps) 1 (.rejected (.airportCode "Adelaide"))
      ((after mixedSteps).step (.copy 0 1)).1 ∧
    ((after mixedSteps).step (.load 1)).1.slots = (after mixedSteps).slots := by
  obtain ⟨hrefused, hempty, hnopass, -, -, -, hcopy, hload, -⟩ :=
    failures_leave_no_trace (after mixedSteps)
  obtain ⟨hrejected, hissued, hunused⟩ :
      (after mixedSteps).slots.get? 0 = some (.rejected (.airportCode "Adelaide")) ∧
      (after mixedSteps).slots.get? 1 = some (.issued ⟨"Ann", "ADL", "QF1", "2"⟩) ∧
      (after mixedSteps).slots.get? 7 = none := by
    decide +kernel
  have hanswer : ((after mixedSteps).step (.copy 7 1)).2 = .emptySlot := by
    rw [step, onSlot_of_none hunused]
  refine ⟨?_, hempty _ hanswer, hnopass 0 _ hrejected _ (List.mem_cons_self ..), ?_,
    hcopy 0 1 _ hrejected, (hload 1 _ hissued).1⟩
  · have hreceipts : (refusedTexts.all fun entry => decide (receive entry.1 = entry.2)) = true := by
      decide +kernel
    have houtcomes : ∀ entry ∈ refusedTexts, ∃ why, entry.2.outcome = .refused why := by
      simp [refusedTexts]
    intro entry hentry
    have hreceipt := of_decide_eq_true (List.all_eq_true.mp hreceipts entry hentry)
    obtain ⟨why, hwhy⟩ := houtcomes entry hentry
    rw [hrefused 1 entry.1 why (by rw [hreceipt, hwhy]), hreceipt]
  · have hfails : Fails (after mixedSteps) (.write 0) := .noPass hrejected (by simp)
    rw [after] at hfails
    rw [(failures_leave_no_trace initial).2.2.2.1 mixedSteps (.write 0) [.look 1] hfails]

end State

end Boarding.Session
