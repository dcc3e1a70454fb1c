import ExprCalc.Text.Decimal

/-!
# The nesting limit as text

The limit is given in decimal digits, with an optional plus sign, and is at most the largest
unsigned 64-bit word. The digits are read from left to right, and the first fault decides the
error: a character that is no digit, or a number that has become too large.
-/

set_option autoImplicit false

namespace ExprCalc

namespace CommandLine

/-- Why a text is no nesting limit. -/
inductive DepthError where
  | empty
  | invalidDigit
  | tooLarge
  deriving DecidableEq

namespace DepthError

/-- The message for an error. -/
def message : DepthError → Text
  | empty => "cannot parse integer from empty string".toList
  | invalidDigit => "invalid digit found in string".toList
  | tooLarge => "number too large to fit in target type".toList

end DepthError

/-- Reads one more digit of a limit. -/
def readDepthDigit (n : Nat) (c : Char) : Except DepthError Nat :=
  match digitValue? 10 c with
  | none => .error .invalidDigit
  | some d => if n * 10 + d < UInt64.size then .ok (n * 10 + d) else .error .tooLarge

/-- Reads the digits of a limit, of which there has to be one at least. -/
def readDepthDigits : Text → Except DepthError Nat
  | [] => .error .invalidDigit
  | digits => digits.foldlM readDepthDigit 0

/-- The limit that a text writes. -/
def readDepth : Text → Except DepthError Nat
  | [] => .error .empty
  | '+' :: digits => readDepthDigits digits
  | digits => readDepthDigits digits

end CommandLine

end ExprCalc
