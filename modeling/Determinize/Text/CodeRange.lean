/-!
Classes of characters that are given as lists of ranges of code points.
-/

namespace Determinize.Text

/-- The code point of `c` lies in one of `ranges`, whose ends are included. -/
def inRanges (ranges : List (Nat × Nat)) (c : Char) : Bool :=
  ranges.any fun range => range.1 ≤ c.toNat && c.toNat ≤ range.2

end Determinize.Text
