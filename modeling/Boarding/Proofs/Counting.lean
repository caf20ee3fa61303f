import Boarding.Proofs.Canonical
import Boarding.Proofs.Failure
import Mathlib.Data.Finset.Card

/-!
Comparing, counting and writing tell the same passes apart.

Two passes are compared text by text, counted as one when they are equal, and written as documents.
Writing loses nothing, so all three come to the same. Counting is seen through finite sets: the
different passes in the slots are as many as their documents. A slot that is filled with a pass
which some slot holds already adds to the slots in use and not to the passes, whichever way the
pass has come there.

* `Slots.mem_values_iff`: the values held are those that some slot holds.
* `step_count_eq`: both numbers, as numbers of slots and of documents.
* `step_count_of_held`: what one more slot with a known pass does to them.
* `passes_identified`: the three ways of telling passes apart, after any steps.
-/

namespace Boarding.Session

open Document

/-- Without its repetitions a list is as long as it has different members. -/
theorem length_eraseDups {α : Type} [DecidableEq α] (as : List α) :
    as.eraseDups.length = as.toFinset.card := by
  match as with
  | [] => rfl
  | a :: as =>
    have hfresh : a ∉ (as.filter fun b => !b == a).toFinset := by simp
    have hsame : insert a (as.filter fun b => !b == a).toFinset = (a :: as).toFinset := by
      ext b
      by_cases h : b = a
      · simp [h]
      · simp [h]
    rw [List.eraseDups_cons, List.length_cons, length_eraseDups (as.filter fun b => !b == a),
      ← hsame, Finset.card_insert_of_notMem hfresh]
termination_by as.length
decreasing_by exact Nat.lt_succ_of_le (List.length_filter_le _ as)

/-! ### Slots -/

namespace Slots

variable {α : Type} {slots : Slots α} {slot : Nat} {a : α}

theorem get?_eq_some_iff_mem : slots.get? slot = some a ↔ (slot, a) ∈ slots.entries :=
  lookup_eq_some_iff_mem slots.nodup

theorem mem_values_iff : a ∈ slots.values ↔ ∃ slot, slots.get? slot = some a := by
  simp only [values, List.mem_map, get?_eq_some_iff_mem]
  constructor
  · rintro ⟨⟨slot, _⟩, hmem, rfl⟩
    exact ⟨slot, hmem⟩
  · rintro ⟨slot, hmem⟩
    exact ⟨(slot, a), hmem, rfl⟩

/-- The numbers of the slots in use. -/
def used (slots : Slots α) : Finset Nat :=
  (slots.entries.map Prod.fst).toFinset

theorem mem_used_iff : slot ∈ slots.used ↔ ∃ a, slots.get? slot = some a := by
  simp only [used, List.mem_toFinset, List.mem_map, get?_eq_some_iff_mem]
  constructor
  · rintro ⟨⟨_, a⟩, hmem, rfl⟩
    exact ⟨a, hmem⟩
  · rintro ⟨a, hmem⟩
    exact ⟨(slot, a), hmem, rfl⟩

theorem card_used (slots : Slots α) : slots.used.card = slots.filled := by
  rw [used, List.toFinset_card_of_nodup slots.nodup, List.length_map, filled]

theorem used_put (slots : Slots α) (slot : Nat) (a : α) :
    (slots.put slot a).used = insert slot slots.used := by
  ext other
  rw [mem_used_iff, Finset.mem_insert, mem_used_iff, get?_put]
  by_cases h : other = slot
  · simp [h]
  · simp [h]

end Slots

namespace State

variable {state : State} {slot : Nat} {pass : Pass}

theorem mem_passes_iff :
    pass ∈ state.passes ↔ ∃ slot, state.slots.get? slot = some (.issued pass) := by
  rw [passes, List.mem_filterMap]
  constructor
  · rintro ⟨verdict, hmem, hpass⟩
    cases verdict with
    | rejected cause => cases hpass
    | issued other =>
      cases hpass
      exact Slots.mem_values_iff.mp hmem
  · intro h
    exact ⟨.issued pass, Slots.mem_values_iff.mpr h, rfl⟩

/-! ### Documents of slots -/

theorem step_write (h : state.slots.get? slot = some (.issued pass)) :
    state.step (.write slot) = (state, .document (write .compact pass)) := by
  rw [step, onPass_of_issued h]

/-- A document is written for a slot exactly when it holds a pass. -/
theorem step_write_eq_document_iff {text : String} :
    (state.step (.write slot)).2 = .document text ↔
      ∃ pass, state.slots.get? slot = some (.issued pass) ∧ write .compact pass = text := by
  constructor
  · intro h
    cases hslot : state.slots.get? slot with
    | none =>
      rw [step, onPass, onSlot_of_none hslot] at h
      cases h
    | some verdict =>
      cases verdict with
      | rejected cause =>
        rw [step, onPass_of_rejected hslot] at h
        cases h
      | issued pass =>
        rw [step_write hslot] at h
        exact ⟨pass, rfl, Answer.document.inj h⟩
  · rintro ⟨pass, hslot, rfl⟩
    rw [step_write hslot]

theorem step_compare {other : Nat} {pass' : Pass}
    (h : state.slots.get? slot = some (.issued pass))
    (h' : state.slots.get? other = some (.issued pass')) :
    state.step (.compare slot other) =
      (state, .compared (decide (write .compact pass = write .compact pass'))) := by
  have hwrite : Verdict.issued pass = .issued pass' ↔
      write .compact pass = write .compact pass' := by
    rw [Verdict.issued.injEq]
    exact ⟨fun heq => by rw [heq], write_injective spaced_compact⟩
  rw [step, onSlot_of_some h, onSlot_of_some h', ← decide_eq_decide.mpr hwrite]
  rfl

/-! ### Counting -/

/-- The documents of the passes in the slots. -/
def documents (state : State) : Finset String :=
  state.passes.toFinset.image (write .compact)

theorem mem_documents_iff {text : String} :
    text ∈ state.documents ↔ ∃ slot, (state.step (.write slot)).2 = .document text := by
  simp only [documents, Finset.mem_image, List.mem_toFinset, mem_passes_iff,
    step_write_eq_document_iff]
  constructor
  · rintro ⟨pass, ⟨slot, hslot⟩, htext⟩
    exact ⟨slot, pass, hslot, htext⟩
  · rintro ⟨slot, pass, hslot, htext⟩
    exact ⟨pass, ⟨slot, hslot⟩, htext⟩

theorem step_count_eq (state : State) :
    (state.step .count).2 = .counted state.slots.used.card state.documents.card := by
  have hwrite : Function.Injective (write .compact) := fun _ _ => write_injective spaced_compact
  rw [documents, Finset.card_image_of_injective _ hwrite, ← length_eraseDups, Slots.card_used, step]

section Repeated

variable {next : State} {target : Nat}

/-- Filling an empty slot takes no pass away. -/
theorem mem_passes_iff_of_put (hnext : next.slots = state.slots.put target (.issued pass))
    (htarget : state.slots.get? target = none) {other : Pass} :
    other ∈ next.passes ↔ other = pass ∨ other ∈ state.passes := by
  simp only [mem_passes_iff, hnext, Slots.get?_put]
  constructor
  · rintro ⟨slot, hslot⟩
    split at hslot
    next =>
      cases hslot
      exact .inl rfl
    next => exact .inr ⟨slot, hslot⟩
  · rintro (rfl | ⟨slot, hslot⟩)
    · exact ⟨target, if_pos rfl⟩
    · refine ⟨slot, ?_⟩
      rw [if_neg, hslot]
      rintro rfl
      rw [htarget] at hslot
      cases hslot

/-- A known pass in a slot that was empty is one more slot and no other document. -/
theorem step_count_of_held (hnext : next.slots = state.slots.put target (.issued pass))
    (htarget : state.slots.get? target = none)
    (hslot : state.slots.get? slot = some (.issued pass)) {filled count : Nat}
    (hcount : (state.step .count).2 = .counted filled count) :
    (next.step .count).2 = .counted (filled + 1) count := by
  have hfresh : target ∉ state.slots.used := by
    rw [Slots.mem_used_iff, htarget]
    exact nofun
  have hpasses : next.passes.toFinset = state.passes.toFinset := by
    ext other
    rw [List.mem_toFinset, List.mem_toFinset, mem_passes_iff_of_put hnext htarget]
    refine ⟨?_, .inr⟩
    rintro (rfl | hmem)
    · exact mem_passes_iff.mpr ⟨slot, hslot⟩
    · exact hmem
  rw [step_count_eq, Answer.counted.injEq] at hcount
  rw [step_count_eq, hnext, Slots.used_put, Finset.card_insert_of_notMem hfresh, documents, hpasses,
    ← documents, hcount.1, hcount.2]

end Repeated

/-! ### After any steps -/

/-- Three ways of bringing the pass of a slot, whose document is given, into another slot. -/
def repeats (slot target : Nat) (entry : Entry) (text : String) : List (List Step) :=
  [[.copy slot target], [.receive target text], [.load slot, .issue target entry]]

/-- Each of them fills that slot and no other. -/
theorem slots_run_repeats {target : Nat} {entry : Entry} {steps : List Step} (hsound : pass.Sound)
    (h : state.slots.get? slot = some (.issued pass))
    (hsteps : steps ∈ repeats slot target entry (write .compact pass)) :
    (state.run steps).1.slots = state.slots.put target (.issued pass) := by
  simp only [repeats, List.mem_cons, List.not_mem_nil, or_false] at hsteps
  rcases hsteps with rfl | rfl | rfl
  · rw [run_cons, run_nil, fst_step_copy h]
  · have hreceive := receive_write_of_sound spaced_compact hsound
    rw [run_cons, run_nil, fst_step_receive (by rw [hreceive])]
  · rw [run_cons, run_cons, run_nil, fst_step_load h, fst_step_issue, issue_toForm_iff.mpr hsound]

/-- **Comparing, counting and writing identify the same passes.** After any steps, two slots with
passes compare as equal exactly when their documents are the same text. The numbers given by
counting are those of the slots in use and of the different documents that are written for slots.
And copying a pass to an empty slot, receiving its document into one, or loading the pass and
issuing it into one makes one slot more and leaves the number of passes as it was. -/
theorem passes_identified (steps : List Step) :
    (∀ slot other pass pass', (after steps).slots.get? slot = some (.issued pass) →
      (after steps).slots.get? other = some (.issued pass') → ∃ text text',
        ((after steps).step (.write slot)).2 = .document text ∧
        ((after steps).step (.write other)).2 = .document text' ∧
        ((after steps).step (.compare slot other)).2 = .compared (decide (text = text'))) ∧
    (∃ (used : Finset Nat) (texts : Finset String),
      (∀ slot, slot ∈ used ↔ ∃ verdict, (after steps).slots.get? slot = some verdict) ∧
      (∀ text, text ∈ texts ↔ ∃ slot, ((after steps).step (.write slot)).2 = .document text) ∧
      ((after steps).step .count).2 = .counted used.card texts.card) ∧
    (∀ slot target pass entry text filled count,
      (after steps).slots.get? slot = some (.issued pass) →
      (after steps).slots.get? target = none →
      ((after steps).step (.write slot)).2 = .document text →
      ((after steps).step .count).2 = .counted filled count →
      ∀ more ∈ repeats slot target entry text,
        (((after steps).run more).1.step .count).2 = .counted (filled + 1) count) := by
  refine ⟨?_, ?_, ?_⟩
  · intro slot other pass pass' h h'
    refine ⟨write .compact pass, write .compact pass', ?_, ?_, ?_⟩
    · rw [step_write h]
    · rw [step_write h']
    · rw [step_compare h h']
  · exact ⟨(after steps).slots.used, (after steps).documents, fun slot => Slots.mem_used_iff,
      fun text => mem_documents_iff, step_count_eq _⟩
  · intro slot target pass entry text filled count hslot htarget htext hcount more hmore
    have hsound : pass.Sound := sound_after steps slot _ hslot
    rw [step_write hslot] at htext
    obtain rfl := Answer.document.inj htext
    exact step_count_of_held (slots_run_repeats hsound hslot hmore) htarget hslot hcount

/-- One pass in two slots, received in two spellings, another pass, and a rejection. -/
def sharedSteps : List Step :=
  mixedSteps ++
    [.receive 2 "[\"Ann\",\"ADL\",\"QF1\",\"\\u0032\"]",
      .receive 3 "[\"Ann\",\"ADL\",\"QF1\",\"3\"]"]

theorem passes_identified_shared :
    (∃ text text', ((after sharedSteps).step (.write 1)).2 = .document text ∧
      ((after sharedSteps).step (.write 3)).2 = .document text' ∧
      ((after sharedSteps).step (.compare 1 3)).2 = .compared (decide (text = text'))) ∧
    ((after sharedSteps).step .count).2 = .counted 4 2 ∧
    ∀ more ∈ repeats 1 5 .form (write .compact ⟨"Ann", "ADL", "QF1", "2"⟩),
      (((after sharedSteps).run more).1.step .count).2 = .counted 5 2 := by
  obtain ⟨hcompare, -, hcount⟩ := passes_identified sharedSteps
  obtain ⟨hfirst, hother, hempty, hcounted⟩ :
      (after sharedSteps).slots.get? 1 = some (.issued ⟨"Ann", "ADL", "QF1", "2"⟩) ∧
      (after sharedSteps).slots.get? 3 = some (.issued ⟨"Ann", "ADL", "QF1", "3"⟩) ∧
      (after sharedSteps).slots.get? 5 = none ∧
      ((after sharedSteps).step .count).2 = .counted 4 2 := by
    decide +kernel
  have htext : ((after sharedSteps).step (.write 1)).2 =
      .document (write .compact ⟨"Ann", "ADL", "QF1", "2"⟩) := by
    rw [step_write hfirst]
  exact ⟨hcompare 1 3 _ _ hfirst hother, hcounted,
    hcount 1 5 _ .form _ 4 2 hfirst hempty htext hcounted⟩

end State

end Boarding.Session
