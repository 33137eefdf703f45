/-!
# Ranges of code points

A class of characters is a list of inclusive ranges of code points in increasing order.
-/

namespace DocCoverage.Text

/-- Whether a character lies in one of some ranges. -/
def inRanges (ranges : List (Nat × Nat)) (c : Char) : Bool :=
  ranges.any fun range => range.1 ≤ c.toNat && c.toNat ≤ range.2

end DocCoverage.Text
