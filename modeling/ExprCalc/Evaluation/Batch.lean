import ExprCalc.Evaluation.Evaluator
import ExprCalc.Evaluation.Trace
import ExprCalc.Outcome
import ExprCalc.Text.Blank
import ExprCalc.Text.Lines

/-!
# Evaluation of lines

A batch evaluates a byte stream line by line. Every line is evaluated on its own, without the
blanks at its ends; blank lines are passed over but counted. A line that fails is reported with its
number and does not stop the batch, but a line that is not UTF-8 does: nothing of it or after it is
evaluated.

A `Batch` lists what was evaluated. The two output streams, the exit code and the trace are all
read off this list.
-/

set_option autoImplicit false

namespace ExprCalc

/-- A line that was evaluated: its number, counted from one, its text without the blanks at the
ends, and its result. -/
structure BatchLine where
  number : Nat
  text : Text
  result : Except EvalError Int64

/-- What was evaluated of a byte stream, and whether the stream was readable to its end. -/
structure Batch where
  lines : List BatchLine
  readable : Bool

namespace BatchLine

/-- What a line writes to the standard output: its value, if it has one. -/
def stdout (l : BatchLine) : Text :=
  match l.result with
  | .ok value => (Text.ofInt value.toInt).line
  | .error _ => []

/-- What a line writes to the standard error: its number and its error, if it has one. -/
def stderr (l : BatchLine) : Text :=
  match l.result with
  | .ok _ => []
  | .error err =>
      Text.line ("line ".toList ++ Text.ofNat l.number ++ ": ".toList ++ err.message)

/-- Has the line failed? -/
def failed (l : BatchLine) : Bool :=
  match l.result with
  | .ok _ => false
  | .error _ => true

/-- The trace of a line: one record that announces it, then those of its evaluation. -/
def trace (l : BatchLine) : List TraceRecord :=
  ⟨.debug, "line ".toList ++ Text.ofNat l.number ++ ": ".toList ++ l.text.quoted⟩ ::
    TraceRecord.ofEvaluation l.text l.result

end BatchLine

namespace Batch

/-- What the batch writes to the standard output. -/
def stdout (b : Batch) : Text := b.lines.flatMap BatchLine.stdout

/-- What the lines of the batch write to the standard error. -/
def stderr (b : Batch) : Text := b.lines.flatMap BatchLine.stderr

/-- The exit code of a batch that was readable: one if a line failed, and zero otherwise. -/
def code (b : Batch) : Nat := if b.lines.any BatchLine.failed then 1 else 0

/-- The trace of the batch. -/
def trace (b : Batch) : List TraceRecord := b.lines.flatMap BatchLine.trace

/-- Why an unreadable stream ends the batch. -/
def unreadableMessage : Text := "stream did not contain valid UTF-8".toList

/-- The outcome of a run that evaluates a stream. An unreadable stream is reported after what was
evaluated before its end, and makes the run fail. -/
def outcome (b : Batch) : Outcome :=
  if b.readable then ⟨b.code, b.stdout, b.stderr⟩
  else ⟨1, b.stdout, b.stderr ++ Text.line ("i/o error: ".toList ++ unreadableMessage)⟩

end Batch

namespace Evaluator

/-- Evaluates a line with its number, unless it is blank. -/
def evaluateLine? (e : Evaluator) (line : Text) (number : Nat) : Option BatchLine :=
  if line.trim.isEmpty then none else some ⟨number, line.trim, e.evaluate line.trim⟩

/-- Evaluates every line of a byte stream that is not blank, up to the first that is not UTF-8. -/
def runBatch (e : Evaluator) (input : Bytes) : Batch :=
  let texts := (Lines.split input).map Utf8.decode?
  let readable := (texts.takeWhile Option.isSome).filterMap id
  { lines := (readable.zipIdx 1).filterMap fun (line, number) => e.evaluateLine? line number
    readable := texts.all Option.isSome }

end Evaluator

end ExprCalc
