/-!
Classes of characters given as tables of code point ranges. A table is a list of pairs, both ends
included, and `Table.contains_iff` reads membership off it.
-/

namespace Boarding.Text

/-- Ranges of code points, each given by its first and its last member. -/
abbrev Table := List (Nat × Nat)

/-- Whether the code point of a character lies in one of the ranges. -/
def Table.contains (table : Table) (c : Char) : Bool :=
  table.any fun range => range.1 ≤ c.toNat && c.toNat ≤ range.2

/-- Membership in a table is membership in one of its ranges. -/
theorem Table.contains_iff {table : Table} {c : Char} :
    table.contains c = true ↔ ∃ range ∈ table, range.1 ≤ c.toNat ∧ c.toNat ≤ range.2 := by
  simp [Table.contains]

end Boarding.Text
