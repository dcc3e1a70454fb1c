/-!
# Tables of code points

A set of characters is written down as the list of its blocks of consecutive code points. Each
block is given by its first and its last member, and the blocks stand in ascending order, so a
look-up may stop at the first block that starts beyond the code point it asks for.
-/

set_option autoImplicit false

namespace ExprCalc

/-- Is `n` in one of the blocks of an ascending list? -/
def inRanges : List (Nat × Nat) → Nat → Bool
  | [], _ => false
  | (first, last) :: blocks, n =>
      if n < first then false else decide (n ≤ last) || inRanges blocks n

end ExprCalc
