/-!
Numbered slots, each empty or holding one value. The slots in use are kept in the order in which
they were first filled, and no number is used twice.

`Slots.get?` is the view, and `Slots.get?_put` says what filling a slot does to it.
-/

namespace Boarding.Session

/-- Slots that hold values of one type. -/
structure Slots (α : Type) where
  /-- The filled slots with their numbers. -/
  entries : List (Nat × α)
  /-- No slot is listed twice. -/
  nodup : (entries.map Prod.fst).Nodup

namespace Slots

variable {α : Type}

/-- All slots empty. -/
def empty : Slots α := ⟨[], List.nodup_nil⟩

/-- What a slot holds. -/
def get? (slots : Slots α) (slot : Nat) : Option α :=
  slots.entries.lookup slot

/-- The number of filled slots. -/
def filled (slots : Slots α) : Nat :=
  slots.entries.length

/-- The values held, slot by slot. -/
def values (slots : Slots α) : List α :=
  slots.entries.map Prod.snd

/-- Puts a value under a number, in place of the one that may be there. -/
def putEntry (slot : Nat) (a : α) : List (Nat × α) → List (Nat × α)
  | [] => [(slot, a)]
  | (other, b) :: entries =>
    if other = slot then (slot, a) :: entries else (other, b) :: putEntry slot a entries

theorem mem_keys_putEntry {slot key : Nat} {a : α} {entries : List (Nat × α)} :
    key ∈ (putEntry slot a entries).map Prod.fst ↔ key = slot ∨ key ∈ entries.map Prod.fst := by
  induction entries with
  | nil => simp [putEntry]
  | cons entry entries ih =>
    obtain ⟨other, b⟩ := entry
    by_cases h : other = slot
    · simp [putEntry, h]
    · rw [putEntry, if_neg h, List.map_cons, List.map_cons, List.mem_cons, List.mem_cons, ih]
      exact or_left_comm

theorem nodup_putEntry {slot : Nat} {a : α} {entries : List (Nat × α)}
    (h : (entries.map Prod.fst).Nodup) : ((putEntry slot a entries).map Prod.fst).Nodup := by
  induction entries with
  | nil => simp [putEntry]
  | cons entry entries ih =>
    obtain ⟨other, b⟩ := entry
    rw [List.map_cons, List.nodup_cons] at h
    by_cases hs : other = slot
    · subst hs
      simpa [putEntry] using h
    · rw [putEntry, if_neg hs, List.map_cons, List.nodup_cons, mem_keys_putEntry]
      exact ⟨fun hmem => hmem.elim hs h.1, ih h.2⟩

/-- Fills a slot, whatever it held before. -/
def put (slots : Slots α) (slot : Nat) (a : α) : Slots α :=
  ⟨putEntry slot a slots.entries, nodup_putEntry slots.nodup⟩

@[simp] theorem get?_empty (slot : Nat) : (empty : Slots α).get? slot = none := rfl

theorem lookup_putEntry (slot other : Nat) (a : α) (entries : List (Nat × α)) :
    (putEntry slot a entries).lookup other =
      if other = slot then some a else entries.lookup other := by
  induction entries with
  | nil =>
    by_cases h : other = slot
    · simp [putEntry, h]
    · simp [putEntry, List.lookup_cons, h, beq_false_of_ne h]
  | cons entry entries ih =>
    obtain ⟨key, b⟩ := entry
    by_cases hk : key = slot
    · subst hk
      by_cases h : other = key
      · simp [putEntry, h]
      · simp [putEntry, List.lookup_cons, h, beq_false_of_ne h]
    · rw [putEntry, if_neg hk]
      by_cases h : other = key
      · subst h
        simp [hk]
      · simpa [List.lookup_cons, beq_false_of_ne h] using ih

/-- After filling a slot it holds the new value and the others hold what they did. -/
theorem get?_put (slots : Slots α) (slot other : Nat) (a : α) :
    (slots.put slot a).get? other = if other = slot then some a else slots.get? other :=
  lookup_putEntry slot other a slots.entries

end Slots

end Boarding.Session
