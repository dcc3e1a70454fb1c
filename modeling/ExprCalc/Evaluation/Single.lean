import ExprCalc.Evaluation.Evaluator
import ExprCalc.Evaluation.Trace
import ExprCalc.Outcome
import ExprCalc.Text.Blank

/-!
# Evaluation of one expression

The text is evaluated without the blanks at its ends. The value goes to the standard output, and
the message of an error to the standard error.
-/

set_option autoImplicit false

namespace ExprCalc

namespace Evaluator

/-- The outcome of a run that evaluates one text. -/
def runSingle (e : Evaluator) (input : Text) : Outcome :=
  match e.evaluate input.trim with
  | .ok value => ⟨0, (Text.ofInt value.toInt).line, []⟩
  | .error err => ⟨1, [], err.message.line⟩

/-- The trace of a run that evaluates one text. -/
def traceSingle (e : Evaluator) (input : Text) : List TraceRecord :=
  TraceRecord.ofEvaluation input.trim (e.evaluate input.trim)

end Evaluator

end ExprCalc
