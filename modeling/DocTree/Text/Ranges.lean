/-!
# Sets of characters given by ranges

A set of characters is given by its ranges of scalar values, both ends included.
-/

namespace DocTree
namespace Text

/-- Whether a character lies in one of the ranges. -/
def inRanges (ranges : List (Nat × Nat)) (c : Char) : Bool :=
  ranges.any fun range => range.1 ≤ c.toNat && c.toNat ≤ range.2

end Text
end DocTree
