/-!
# Sets of code points

A property of characters is given as a table: inclusive ranges of code points, in ascending
order and apart from each other. Membership is decided by bisection, so a table of several
hundred ranges costs about ten comparisons.
-/
namespace SourceLens.Text

/-- Inclusive ranges of code points, ascending and disjoint. -/
abbrev CodePoints : Type := Array (Nat × Nat)

namespace CodePoints

/-- Whether one of the ranges with index in `[low, high)` holds the code point. -/
def bisect (ranges : CodePoints) (point low high : Nat) : Bool :=
  if low < high then
    let middle := (low + high) / 2
    match ranges[middle]? with
    | none => false
    | some (first, last) =>
      if point < first then bisect ranges point low middle
      else if last < point then bisect ranges point (middle + 1) high
      else true
  else false
termination_by high - low

/-- Whether a range of the table holds the code point. -/
def holdsPoint (ranges : CodePoints) (point : Nat) : Bool := ranges.bisect point 0 ranges.size

/-- Whether a range of the table holds the character. -/
def holds (ranges : CodePoints) (c : Char) : Bool := ranges.holdsPoint c.toNat

/-- Whether a range of the table meets the code points from `low` to `high`. -/
def meets (ranges : CodePoints) (low high : Nat) : Bool :=
  ranges.any fun (first, last) => first ≤ high && low ≤ last

end CodePoints

end SourceLens.Text
