import ExprCalc.Arithmetic
import ExprCalc.Evaluation.Error
import ExprCalc.Nesting

/-!
# Evaluation

An evaluator takes a whole text for one expression and answers with its value or with an error. It
first looks at the nesting of the parentheses, so a text beyond the limit is never parsed. Then it
takes the first reading of the text, and at last it asks whether anything is left over.
-/

set_option autoImplicit false

namespace ExprCalc

/-- The settings of an evaluation. -/
structure Evaluator where
  /-- The deepest nesting of parentheses that is accepted. -/
  maxDepth : Nat := 256
  /-- Is a value accepted that has text after its expression? -/
  allowTrailing : Bool := false
  deriving DecidableEq

namespace Evaluator

/-- The evaluator with every setting at its default. -/
def default : Evaluator := {}

/-- The value of a text, or the reason why it has none. -/
def evaluate (e : Evaluator) (input : Text) : Except EvalError Int64 :=
  if e.maxDepth < Nesting.depth input then .error (.tooDeep (Nesting.depth input) e.maxDepth)
  else
    match (Arithmetic.Level.expression.parser input).head? with
    | none => .error (.noExpression input)
    | some r =>
        if r.rest.isEmpty || e.allowTrailing then .ok r.value
        else .error (.leftover r.value (input.byteCount - r.rest.byteCount) r.rest)

end Evaluator

end ExprCalc
