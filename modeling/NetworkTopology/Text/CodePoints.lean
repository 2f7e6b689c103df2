/-!
# Sets of code points

A set of characters given by a standard is a list of closed ranges of code points.  This module
holds the membership test that the tables of blank, digit and unprintable characters share.
-/

namespace NetworkTopology.Text

/-- A set of code points, as closed ranges `(first, last)`. -/
abbrev CodePoints := List (Nat × Nat)

/-- A character belongs to the set when one of the ranges holds its code point. -/
def CodePoints.holds (ranges : CodePoints) (c : Char) : Bool :=
  ranges.any fun range => range.1 ≤ c.toNat && c.toNat ≤ range.2

theorem CodePoints.holds_iff {ranges : CodePoints} {c : Char} :
    ranges.holds c = true ↔ ∃ range ∈ ranges, range.1 ≤ c.toNat ∧ c.toNat ≤ range.2 := by
  simp [CodePoints.holds]

end NetworkTopology.Text
