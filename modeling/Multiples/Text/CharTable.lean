import Multiples.Text.Basic

/-!
# Tables of characters

A character property is a list of ranges of code points, ends included.
-/

namespace Multiples

/-- Ranges of code points, each given by its first and its last member. -/
abbrev CharTable := List (Nat × Nat)

namespace CharTable

/-- Whether a character is in one of the ranges. -/
def has (table : CharTable) (c : Char) : Bool :=
  table.any fun range => decide (range.1 ≤ c.toNat) && decide (c.toNat ≤ range.2)

theorem has_iff {table : CharTable} {c : Char} :
    table.has c = true ↔ ∃ range ∈ table, range.1 ≤ c.toNat ∧ c.toNat ≤ range.2 := by
  simp [has, List.any_eq_true]

end CharTable

end Multiples
