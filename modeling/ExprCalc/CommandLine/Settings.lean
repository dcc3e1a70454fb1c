import ExprCalc.CommandLine.Scan
import ExprCalc.Evaluation.Evaluator

/-!
# Settings

The settings of a run come from the arguments and from two environment variables. A variable counts
only if its option was not given, and it is looked at after all arguments.

An argument is any string of bytes, but the value of a variable is a text. What the program does with
a variable that is not UTF-8 is outside the model.
-/

set_option autoImplicit false

namespace ExprCalc

namespace CommandLine

/-- The values of the environment variables, where they are set. They are texts: no environment has a
value that is not UTF-8. -/
structure Environment where
  allowTrailing : Option Text := none
  maxDepth : Option Text := none

/-- What a run is asked to do: to evaluate the given expression, or the lines of the standard input
if there is none. -/
structure Settings where
  evaluator : Evaluator
  expression : Option Text

/-- Does the value of a variable switch its flag on? Some words for "no" do not, in either case of
their letters, and neither does the empty text. -/
def isOn (value : Text) : Bool :=
  (value.map Char.toLower) ∉ ["", "n", "no", "f", "false", "off", "0"].map String.toList

/-- The limit from its option, else from its variable, else the default. -/
def Given.maxDepthOr (g : Given) (value? : Option Text) : Except UsageError Nat :=
  match g.maxDepth, value? with
  | some n, _ => .ok n
  | none, none => .ok Evaluator.default.maxDepth
  | none, some value => (readDepth value).mapError (.badDepth value)

/-- The flag from its option, else from its variable, else the default. -/
def Given.allowTrailingOr (g : Given) (value? : Option Text) : Bool :=
  if .allowTrailing ∈ g.options then true
  else
    match value? with
    | some value => isOn value
    | none => Evaluator.default.allowTrailing

/-- The settings from the arguments and the environment. -/
def settings (args : List Bytes) (env : Environment) : Except Stop Settings :=
  (scan args).bind fun g =>
    ((g.maxDepthOr env.maxDepth).mapError .usage).map fun maxDepth =>
      { evaluator := ⟨maxDepth, g.allowTrailingOr env.allowTrailing⟩
        expression := g.expression }

end CommandLine

end ExprCalc
