/-!
# Classes of characters given by ranges

A class of characters is written as a list of closed intervals of code points, in increasing
order.  The tables of the sibling modules are such lists; membership is a linear search, which is
short because every caller settles the first 128 code points by a rule of its own.
-/

namespace Sweep.Text

/-- A code point lies in one of the closed intervals. -/
def inRanges (ranges : List (Nat × Nat)) (code : Nat) : Bool :=
  ranges.any fun r => r.1 ≤ code && code ≤ r.2

theorem inRanges_iff {ranges : List (Nat × Nat)} {code : Nat} :
    inRanges ranges code = true ↔ ∃ r ∈ ranges, r.1 ≤ code ∧ code ≤ r.2 := by
  simp [inRanges]

end Sweep.Text
