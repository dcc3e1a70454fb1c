import ExprCalc.CommandLine.Help
import ExprCalc.Evaluation.Batch
import ExprCalc.Evaluation.Single

/-!
# The program

The whole program as a function: from the arguments, the environment and the standard input to the
outcome of the run. The standard input counts only if there is no expression among the arguments,
so a `Plan` tells beforehand whether it has to be read.
-/

set_option autoImplicit false

namespace ExprCalc

namespace CommandLine

/-- What remains to be done once the arguments are known. -/
inductive Plan where
  /-- Nothing: the outcome is known. -/
  | done (o : Outcome)
  /-- To evaluate the standard input line by line. -/
  | batch (e : Evaluator)

/-- The outcome of a scan that stopped: a message and code two, or a text about the program. -/
def Stop.outcome (env : Environment) : Stop → Outcome
  | .usage e => ⟨2, [], e.message⟩
  | .help => ⟨0, helpText env, []⟩
  | .version => ⟨0, versionText, []⟩

/-- The plan that arguments and environment make. -/
def plan (args : List Bytes) (env : Environment) : Plan :=
  match settings args env with
  | .error stop => .done (stop.outcome env)
  | .ok s =>
      match s.expression with
      | some input => .done (s.evaluator.runSingle input)
      | none => .batch s.evaluator

/-- The outcome of a run. -/
def run (args : List Bytes) (env : Environment) (stdin : Bytes) : Outcome :=
  match plan args env with
  | .done o => o
  | .batch e => (e.runBatch stdin).outcome

/-- The outcome of a run with known settings. -/
def Settings.outcome (s : Settings) (stdin : Bytes) : Outcome :=
  match s.expression with
  | some input => s.evaluator.runSingle input
  | none => (s.evaluator.runBatch stdin).outcome

theorem run_of_settings_error {args : List Bytes} {env : Environment} {stop : Stop}
    (h : settings args env = .error stop) (stdin : Bytes) :
    run args env stdin = stop.outcome env := by
  simp only [run, plan, h]

theorem run_of_settings_ok {args : List Bytes} {env : Environment} {s : Settings}
    (h : settings args env = .ok s) (stdin : Bytes) : run args env stdin = s.outcome stdin := by
  simp only [run, plan, h, Settings.outcome]
  cases s.expression with
  | none => rfl
  | some input => rfl

end CommandLine

end ExprCalc
