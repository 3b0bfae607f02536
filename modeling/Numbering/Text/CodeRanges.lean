/-!
# Ranges of code points

A property of characters is a sorted list of inclusive ranges of code points. Looking a character
up walks the ranges until one ends at or after it.
-/

namespace Numbering.Text

/-- A code point lies in one of some sorted inclusive ranges. -/
def inRanges : List (Nat × Nat) → Nat → Bool
  | [], _ => false
  | (first, last) :: ranges, code =>
      if code ≤ last then decide (first ≤ code) else inRanges ranges code

end Numbering.Text
