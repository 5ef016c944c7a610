/-!
# Ranges of characters

A set of characters is given as an ascending list of ranges of code points.
-/

namespace PageContext.Text

/-- Whether a code point lies in one of the ranges. -/
def inRanges (ranges : Array (Nat × Nat)) (code : Nat) : Bool :=
  ranges.any fun range => range.1 ≤ code && code ≤ range.2

end PageContext.Text
