import ExprCalc.Text.Basic
import ExprCalc.Text.Ranges

/-!
# Blank characters

The `White_Space` property of Unicode 17, and `Text.trim`, which takes blank characters off both
ends of a text. Blanks inside the text stay.
-/

set_option autoImplicit false

namespace ExprCalc

/-- The blocks of code points with the `White_Space` property, in ascending order. -/
def blankRanges : List (Nat × Nat) := [
    (0x9, 0xd), (0x20, 0x20), (0x85, 0x85), (0xa0, 0xa0), (0x1680, 0x1680), (0x2000, 0x200a),
    (0x2028, 0x2029), (0x202f, 0x202f), (0x205f, 0x205f), (0x3000, 0x3000)]

/-- Has the character the `White_Space` property? -/
def isBlank (c : Char) : Bool := inRanges blankRanges c.toNat

namespace Text

/-- The text without the blank characters at its start. -/
def trimStart (s : Text) : Text := s.dropWhile isBlank

/-- The text without the blank characters at its end. -/
def trimEnd (s : Text) : Text := (s.reverse.dropWhile isBlank).reverse

/-- The text without the blank characters at its two ends. -/
def trim (s : Text) : Text := s.trimStart.trimEnd

end Text

end ExprCalc
