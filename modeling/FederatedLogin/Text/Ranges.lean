/-!
# Sets of code points as ranges

A set is a list of closed ranges; membership is a linear search.
-/

namespace FederatedLogin.Text

/-- The code point lies in one of the ranges. -/
def inRanges (ranges : List (Nat × Nat)) (c : Nat) : Bool :=
  ranges.any fun r => r.1 ≤ c && c ≤ r.2

theorem inRanges_iff {ranges : List (Nat × Nat)} {c : Nat} :
    inRanges ranges c = true ↔ ∃ r ∈ ranges, r.1 ≤ c ∧ c ≤ r.2 := by
  simp [inRanges]

end FederatedLogin.Text
