import ExprCalc.Text.Quoted

/-!
# Evaluation errors

Why a text could not be evaluated as one whole expression, and the message for each cause. A
message is one line, since the parts of the input in it are quoted.
-/

set_option autoImplicit false

namespace ExprCalc

/-- Why a text has no value. -/
inductive EvalError where
  /-- No expression stands at the start of the text, or its arithmetic fails. -/
  | noExpression (input : Text)
  /-- An expression with a value stands there, but text is left over after it. -/
  | leftover (value : Int64) (offset : Nat) (remainder : Text)
  /-- The parentheses nest deeper than the limit. -/
  | tooDeep (depth limit : Nat)
  deriving DecidableEq

namespace EvalError

/-- The message for an error. -/
def message : EvalError → Text
  | noExpression input => "invalid expression: ".toList ++ input.quoted
  | leftover value offset remainder =>
      "unexpected trailing input at byte offset ".toList ++ Text.ofNat offset ++ ": ".toList ++
        remainder.quoted ++ " (parsed value: ".toList ++ Text.ofInt value.toInt ++ ")".toList
  | tooDeep depth limit =>
      "expression nests ".toList ++ Text.ofNat depth ++ " parentheses deep, limit is ".toList ++
        Text.ofNat limit

/-- The position in the input where the problem starts, in bytes, if the error has one. -/
def position? : EvalError → Option Nat
  | leftover _ offset _ => some offset
  | noExpression _ => none
  | tooDeep _ _ => none

end EvalError

end ExprCalc
