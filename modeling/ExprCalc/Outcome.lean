import ExprCalc.Text.Basic

/-!
# Outcomes

What a run of the program leaves behind: its exit code, and the text on its two output streams.
-/

set_option autoImplicit false

namespace ExprCalc

/-- The exit code of a run and what it wrote. -/
structure Outcome where
  code : Nat
  stdout : Text
  stderr : Text
  deriving DecidableEq

/-- A text as a line of output. -/
def Text.line (s : Text) : Text := s ++ ['\n']

end ExprCalc
