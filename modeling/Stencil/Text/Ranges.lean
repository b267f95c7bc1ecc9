/-!
# Character classes given by ranges

A character class of the Unicode standard is a list of ranges of code points, both ends included.
Membership reads the list from the left; the tables of this library are sorted and short enough
that nothing faster is needed.
-/

namespace Stencil.Text

/-- A set of characters as ranges of code points, both ends included. -/
abbrev Ranges := List (Nat × Nat)

/-- The character lies in one of the ranges. -/
def Ranges.contains (ranges : Ranges) (c : Char) : Bool :=
  ranges.any fun r => r.1 ≤ c.toNat && c.toNat ≤ r.2

/-- A character is in a table when one of its ranges holds it. -/
theorem Ranges.contains_iff {ranges : Ranges} {c : Char} :
    ranges.contains c = true ↔ ∃ r ∈ ranges, r.1 ≤ c.toNat ∧ c.toNat ≤ r.2 := by
  simp [Ranges.contains]

end Stencil.Text
