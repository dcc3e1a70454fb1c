import ExprCalc.CommandLine.Program

/-!
# The command line program

Hands the arguments, the environment and the standard input to `CommandLine.run`, writes the two
outputs, and exits with the code. Nothing is decided here.
-/

set_option autoImplicit false

namespace ExprCalc

/-- Everything that a stream still holds. -/
partial def readAll (stream : IO.FS.Stream) (read : ByteArray) : IO ByteArray := do
  let chunk ← stream.read 65536
  if chunk.isEmpty then return read else readAll stream (read ++ chunk)

/-- The value of an environment variable as a text. -/
def variableValue (name : String) : IO (Option Text) := do
  return (← IO.getEnv name).map String.toList

end ExprCalc

open ExprCalc in
/-- Runs the program on the arguments, and gives its exit code. -/
def main (args : List String) : IO UInt32 := do
  let env : CommandLine.Environment :=
    { allowTrailing := ← variableValue "PARSICALC_ALLOW_TRAILING"
      maxDepth := ← variableValue "PARSICALC_MAX_DEPTH" }
  let outcome ←
    match CommandLine.plan (args.map fun a => Utf8.encode a.toList) env with
    | .done o => pure o
    | .batch e => do
        let stdin ← readAll (← IO.getStdin) .empty
        pure (e.runBatch stdin.toList).outcome
  (← IO.getStdout).putStr (String.ofList outcome.stdout)
  (← IO.getStderr).putStr (String.ofList outcome.stderr)
  return UInt32.ofNat outcome.code
