/-!
# Ranges of code points

Properties of characters are given by lists of ranges, each with its first and its last code
point.
-/

namespace Converge

/-- Whether a code point is in a list of ranges. -/
def inRanges (n : Nat) (ranges : List (Nat × Nat)) : Bool := ranges.any fun r => r.1 ≤ n && n ≤ r.2

end Converge
