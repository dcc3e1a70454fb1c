import ExprCalc.Evaluation.Error

/-!
# Trace of an evaluation

The records that tell what an evaluation did. They follow from the input and its result alone: a
text beyond the depth limit is turned away before it is parsed, every other text is first announced
and then settled by its result.
-/

set_option autoImplicit false

namespace ExprCalc

/-- How fine a detail a record tells. -/
inductive TraceLevel where
  | debug
  | trace
  deriving DecidableEq

/-- One record of a trace. -/
structure TraceRecord where
  level : TraceLevel
  message : Text
  deriving DecidableEq

namespace TraceRecord

/-- The record of a text that is about to be parsed. -/
def parsing (input : Text) : TraceRecord := ⟨.trace, "expression: ".toList ++ input.quoted⟩

/-- The records of the evaluation of `input` that ended with the given result. -/
def ofEvaluation (input : Text) : Except EvalError Int64 → List TraceRecord
  | .ok value =>
      [parsing input,
        ⟨.trace, input.quoted ++ " = ".toList ++ Text.ofInt value.toInt⟩]
  | .error (.noExpression _) =>
      [parsing input, ⟨.debug, "no parse for ".toList ++ input.quoted⟩]
  | .error (.leftover value _ remainder) =>
      [parsing input,
        ⟨.debug, "parsed ".toList ++ Text.ofInt value.toInt ++ " but ".toList ++
          remainder.quoted ++ " is left over".toList⟩]
  | .error (.tooDeep depth _) =>
      [⟨.debug, "rejecting input nested ".toList ++ Text.ofNat depth ++ " deep".toList⟩]

end TraceRecord

end ExprCalc
