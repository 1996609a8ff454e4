/-! # Sets of characters

  A set of characters is a list of ranges of code points, in increasing order and apart from
  each other.
-/

namespace Rehearsal.Text

/-- Ranges of code points, both ends included, in increasing order. -/
abbrev Ranges := List (Nat × Nat)

/-- Whether a code point lies in one of the ranges; the search ends at the first range that
    starts above it. -/
def Ranges.contains : Ranges → Nat → Bool
  | [], _ => false
  | (low, high) :: rest, n =>
    if n < low then false else if n ≤ high then true else Ranges.contains rest n

end Rehearsal.Text
