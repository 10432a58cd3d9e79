/-!
# Sets of code points

A property of code points is a list of closed ranges. The tables of this folder hold the ranges
above the ASCII block; each predicate decides ASCII by a rule of its own, so that reasoning about
ASCII text never opens a table.
-/

namespace RunMarkers.Text

/-- A set of code points as closed ranges. -/
abbrev CodeRanges := List (Nat × Nat)

/-- `n` lies in one of the ranges. -/
def CodeRanges.contains (ranges : CodeRanges) (n : Nat) : Bool :=
  ranges.any fun r => Nat.ble r.1 n && Nat.ble n r.2

theorem CodeRanges.contains_iff {ranges : CodeRanges} {n : Nat} :
    ranges.contains n = true ↔ ∃ r ∈ ranges, r.1 ≤ n ∧ n ≤ r.2 := by
  simp [CodeRanges.contains]

/-- The code points U+0000 to U+007F. -/
def isAscii (c : Char) : Bool := decide (c.toNat < 128)

end RunMarkers.Text
