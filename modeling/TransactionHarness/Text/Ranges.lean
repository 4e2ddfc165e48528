/-!
# Ranges of numbers

A set of numbers can be written as a table of ranges with both ends included. `inRanges_iff` states
which numbers such a table has.
-/

namespace TransactionHarness.Text

/-- Whether a number lies in one of the ranges. -/
def inRanges (ranges : List (Nat × Nat)) (n : Nat) : Bool :=
  ranges.any fun range ↦ range.1 ≤ n && n ≤ range.2

theorem inRanges_iff {ranges : List (Nat × Nat)} {n : Nat} :
    inRanges ranges n ↔ ∃ range ∈ ranges, range.1 ≤ n ∧ n ≤ range.2 := by
  simp [inRanges]

end TransactionHarness.Text
