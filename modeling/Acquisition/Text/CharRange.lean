/-!
# Sets of characters as ranges of code points

A property of characters that a standard lists by code point is kept as an array of closed
ranges.  `inRanges` is membership.
-/

namespace Acquisition.Text

/-- The code point `n` lies in one of the closed ranges. -/
def inRanges (ranges : Array (Nat × Nat)) (n : Nat) : Bool :=
  ranges.any fun range => range.1 ≤ n && n ≤ range.2

end Acquisition.Text
