/-!
# Sets of code points

A set of characters given by closed ranges of code points, as the tables of
Unicode properties are.
-/

namespace SheetLint.Text
set_option autoImplicit false

/-- Membership of a code point in a list of closed ranges. -/
def inRangesB (ranges : List (Nat × Nat)) (n : Nat) : Bool :=
  ranges.any fun r => decide (r.1 ≤ n) && decide (n ≤ r.2)

theorem inRangesB_iff {ranges : List (Nat × Nat)} {n : Nat} :
    inRangesB ranges n = true ↔ ∃ r ∈ ranges, r.1 ≤ n ∧ n ≤ r.2 := by
  simp [inRangesB]

end SheetLint.Text
