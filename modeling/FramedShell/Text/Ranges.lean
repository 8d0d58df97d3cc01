/-!
# Looking a character up in a table of ranges

Properties of characters are kept as lists of closed ranges of code points. `inRanges` decides whether a
character has the property; `inRanges_iff` says what that means.
-/

namespace FramedShell.Text

/-- Whether the code point of `c` lies in one of the ranges. -/
def inRanges (ranges : List (Nat × Nat)) (c : Char) : Bool :=
  ranges.any fun r => decide (r.1 ≤ c.toNat) && decide (c.toNat ≤ r.2)

theorem inRanges_iff {ranges : List (Nat × Nat)} {c : Char} :
    inRanges ranges c = true ↔ ∃ r ∈ ranges, r.1 ≤ c.toNat ∧ c.toNat ≤ r.2 := by
  simp [inRanges]

end FramedShell.Text
