/-!
# Ranges of code points

A property of characters is a list of closed ranges, ascending and apart.
-/

namespace Reshape.Text

/-- Whether `code` lies in one of the ranges, which ascend. -/
def inRanges : List (Nat × Nat) → Nat → Bool
  | [], _ => false
  | (first, last) :: rest, code => first ≤ code && (code ≤ last || inRanges rest code)

end Reshape.Text
