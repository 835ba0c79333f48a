/-!
# Ranges of characters

Properties of characters beyond ASCII are tables of ranges, each with both of its ends.
-/

namespace EvmScope.Text

set_option autoImplicit false

/-- Whether a character lies in one of some ranges. -/
def inRanges (ranges : List (Nat × Nat)) (c : Char) : Bool :=
  ranges.any fun range => range.1 ≤ c.toNat && c.toNat ≤ range.2

end EvmScope.Text
