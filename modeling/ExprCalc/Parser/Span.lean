import ExprCalc.Parser.Basic

/-!
# The span of a reading

The remainder of a reading is the end of the text that was read. So the span of the reading, the
text that it consumed, is what stands before this end: the start of the input, as many bytes long
as the remainder is shorter than the input.
-/

set_option autoImplicit false

namespace ExprCalc

universe u

variable {α : Type u}

/-- The text that a reading of the input `s` consumed. -/
def Reading.span (r : Reading α) (s : Text) : Text := s.takeBytes (s.byteCount - r.rest.byteCount)

namespace Parser

/-- Pairs every value with the span of its reading. -/
def withSpan (p : Parser α) : Parser (α × Text) :=
  fun s => (p s).map fun r => ⟨(r.value, r.span s), r.rest⟩

end Parser

end ExprCalc
