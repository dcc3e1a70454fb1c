import ExprCalc.Evaluation.Batch
import ExprCalc.Proofs.TextLines
import Mathlib.Data.List.TakeWhile

/-!
# The lines of a batch

A batch treats its lines one by one. Each line that is not blank leaves one record, which depends on
the text of the line, on its number and on nothing else, and the streams of the batch are these
records in the order of the lines. A stream whose last line is ended may therefore be run apart
from what follows it: the batch of the two together is the batch of the first, continued by the batch
of the second under higher numbers (`Evaluator.runBatch_append`).
-/

set_option autoImplicit false

namespace ExprCalc

/-! ## Readable lines -/

namespace Lines

/-- Is the line UTF-8? -/
def IsReadable (line : Bytes) : Prop := (Utf8.decode? line).isSome

instance (line : Bytes) : Decidable (IsReadable line) :=
  inferInstanceAs (Decidable (_ = true))

/-- The lines of a byte stream up to the first that is not UTF-8, as texts. -/
def texts (input : Bytes) : List Text :=
  (((split input).map Utf8.decode?).takeWhile Option.isSome).filterMap id

theorem isReadable_of_mem_split_encode {s : Text} {line : Bytes}
    (h : line ∈ split (Utf8.encode s)) : IsReadable line := by
  rw [split_encode, List.mem_map] at h
  obtain ⟨text, -, rfl⟩ := h
  rw [IsReadable, Utf8.decode?_encode, Option.isSome_some]

/-- All lines of a text are read. -/
theorem texts_encode (s : Text) : texts (Utf8.encode s) = s.lines := by
  have hsome : ∀ line ∈ s.lines.map some, line.isSome = true := by simp
  rw [texts, decode?_split_encode, List.takeWhile_eq_self_iff.mpr hsome]
  simp

/-- What follows a text whose last line is ended is read as if it stood alone. -/
theorem texts_append {s : Text} (h : Ended (Utf8.encode s)) (input : Bytes) :
    texts (Utf8.encode s ++ input) = s.lines ++ texts input := by
  have hsome : ∀ line ∈ s.lines.map some, line.isSome = true := by simp
  rw [texts, split_append h, List.map_append, decode?_split_encode,
    List.takeWhile_append_of_pos hsome, List.filterMap_append]
  simp [texts]

/-- A text whose last line is ended has as many lines as newlines. -/
theorem length_lines {s : Text} (h : Ended (Utf8.encode s)) :
    s.lines.length = (Utf8.encode s).count newline := by
  rw [← length_split h, split_encode, List.length_map]

end Lines

/-! ## Batches -/

/-- The line under a number that is higher by `k`. -/
def BatchLine.renumber (k : Nat) (l : BatchLine) : BatchLine := { l with number := l.number + k }

namespace Batch

/-- The batch with every line number higher by `k`. -/
def renumber (k : Nat) (b : Batch) : Batch := { b with lines := b.lines.map (.renumber k) }

/-- A batch and after it another one, which ends as this other one does. -/
def followedBy (b c : Batch) : Batch := ⟨b.lines ++ c.lines, c.readable⟩

/-- How a run over the batch ends: with an exit code, or with the reason why it was given up. -/
def returned (b : Batch) : Except Text Nat :=
  if b.readable then .ok b.code else .error unreadableMessage

/-- The outcome of a run is what its batch has written and how it ended. -/
theorem outcome_eq (b : Batch) :
    b.outcome = match b.returned with
      | .ok code => ⟨code, b.stdout, b.stderr⟩
      | .error reason => ⟨1, b.stdout, b.stderr ++ Text.line ("i/o error: ".toList ++ reason)⟩ := by
  unfold outcome returned
  cases b.readable <;> rfl

theorem stdout_followedBy (b c : Batch) : (b.followedBy c).stdout = b.stdout ++ c.stdout :=
  List.flatMap_append

theorem stderr_followedBy (b c : Batch) : (b.followedBy c).stderr = b.stderr ++ c.stderr :=
  List.flatMap_append

theorem code_followedBy (b c : Batch) :
    (b.followedBy c).code = if b.code = 1 ∨ c.code = 1 then 1 else 0 := by
  unfold code followedBy
  rw [List.any_append]
  cases b.lines.any BatchLine.failed <;> cases c.lines.any BatchLine.failed <;> rfl

/-- Values are printed without their numbers. -/
theorem stdout_renumber (k : Nat) (b : Batch) : (b.renumber k).stdout = b.stdout := by
  simp only [stdout, renumber, List.flatMap_map]
  rfl

theorem code_renumber (k : Nat) (b : Batch) : (b.renumber k).code = b.code := by
  simp only [code, renumber, List.any_map]
  rfl

/-- A line of the batch has failed if and only if the batch has reported something. -/
theorem any_failed_iff (b : Batch) : b.lines.any BatchLine.failed = true ↔ b.stderr ≠ [] := by
  have hline (l : BatchLine) : l.failed = true ↔ l.stderr ≠ [] := by
    unfold BatchLine.failed BatchLine.stderr
    cases l.result <;> simp [Text.line]
  simp only [stderr, ne_eq, List.flatMap_eq_nil_iff, List.any_eq_true, hline, not_forall,
    exists_prop]

/-- A run ends with zero exactly if it has reported nothing. -/
theorem code_eq (b : Batch) : b.code = if b.stderr = [] then 0 else 1 := by
  by_cases h : b.stderr = []
  · rw [if_pos h, code, if_neg (mt b.any_failed_iff.mp (not_not.mpr h))]
  · rw [if_neg h, code, if_pos (b.any_failed_iff.mpr h)]

end Batch

namespace Evaluator

variable (e : Evaluator)

/-- What a line adds to the standard output and to the standard error under its number, if it is
not blank: its value to the one, or else its error to the other. -/
def record? (line : Text) (number : Nat) : Option (Text × Text) :=
  if line.trim = [] then none
  else
    match e.evaluate line.trim with
    | .ok value => some ((Text.ofInt value.toInt).line, [])
    | .error err =>
        some ([], Text.line ("line ".toList ++ Text.ofNat number ++ ": ".toList ++ err.message))

/-- The records of a byte stream, in the order of its lines. Blank lines have numbers too. -/
def records (input : Bytes) : List (Text × Text) :=
  ((Lines.texts input).zipIdx 1).filterMap fun (line, number) => e.record? line number

theorem record?_eq (line : Text) (number : Nat) :
    e.record? line number = (e.evaluateLine? line number).map fun l => (l.stdout, l.stderr) := by
  unfold record? evaluateLine? BatchLine.stdout BatchLine.stderr
  by_cases h : line.trim = []
  · simp [h]
  · rw [if_neg h, if_neg (by simpa using h), Option.map_some]
    cases e.evaluate line.trim <;> rfl

/-! ## One stream behind another -/

/-- What is evaluated of lines that are numbered from `number` on. -/
def evaluateFrom (lines : List Text) (number : Nat) : List BatchLine :=
  (lines.zipIdx number).filterMap fun (line, number) => e.evaluateLine? line number

/-- A batch holds what is evaluated of the lines that are read. -/
theorem lines_runBatch (input : Bytes) :
    (e.runBatch input).lines = e.evaluateFrom (Lines.texts input) 1 := rfl

/-- A batch has one record for each line that was evaluated. -/
theorem records_eq (input : Bytes) :
    e.records input = (e.runBatch input).lines.map fun l => (l.stdout, l.stderr) := by
  rw [lines_runBatch, evaluateFrom, List.map_filterMap]
  exact List.filterMap_congr fun (line, number) _ => e.record?_eq line number

/-- A stream is readable if every line is. -/
theorem readable_runBatch (input : Bytes) :
    (e.runBatch input).readable = true ↔ ∀ line ∈ Lines.split input, Lines.IsReadable line := by
  simp [runBatch, Lines.IsReadable]

theorem evaluateFrom_append (lines rest : List Text) (number : Nat) :
    e.evaluateFrom (lines ++ rest) number =
      e.evaluateFrom lines number ++ e.evaluateFrom rest (number + lines.length) := by
  rw [evaluateFrom, List.zipIdx_append, List.filterMap_append]
  rfl

/-- A line that is evaluated under a higher number is the same but for its number. -/
theorem evaluateLine?_add (line : Text) (number k : Nat) :
    e.evaluateLine? line (number + k) = (e.evaluateLine? line number).map (.renumber k) := by
  unfold evaluateLine?
  split <;> rfl

/-- So are lines that are numbered from a higher number on. -/
theorem evaluateFrom_add (lines : List Text) (number k : Nat) :
    e.evaluateFrom lines (number + k) = (e.evaluateFrom lines number).map (.renumber k) := by
  -- The first number grows from line to line.
  induction lines generalizing number with
  | nil => rfl
  | cons line lines ih =>
      have ih' := ih (number + 1)
      rw [Nat.add_right_comm] at ih'
      unfold evaluateFrom at ih' ⊢
      simp only [List.zipIdx_cons, List.filterMap_cons, evaluateLine?_add, ih']
      cases e.evaluateLine? line number <;> rfl

/-- A text whose last line is ended is run as if nothing followed it, and what follows is run as if
it stood alone, under higher numbers. -/
theorem runBatch_append {s : Text} (h : Lines.Ended (Utf8.encode s)) (input : Bytes) :
    e.runBatch (Utf8.encode s ++ input) =
      (e.runBatch (Utf8.encode s)).followedBy
        ((e.runBatch input).renumber ((Utf8.encode s).count Lines.newline)) := by
  have hlines : (e.runBatch (Utf8.encode s ++ input)).lines = (e.runBatch (Utf8.encode s)).lines ++
      (e.runBatch input).lines.map (.renumber ((Utf8.encode s).count Lines.newline)) := by
    rw [lines_runBatch, lines_runBatch, lines_runBatch, Lines.texts_append h, Lines.texts_encode,
      evaluateFrom_append, Lines.length_lines h, evaluateFrom_add]
  have hreadable : (e.runBatch (Utf8.encode s ++ input)).readable = (e.runBatch input).readable := by
    simp [runBatch, Lines.split_append h, Lines.decode?_split_encode]
  rw [Batch.followedBy, Batch.renumber, ← hlines, ← hreadable]

/-- A run writes one record for each line that it reads and, if it reads to the end, answers with
one exactly if it has reported an error. A line that is not UTF-8 ends the run. -/
structure LineByLine (input : Bytes) : Prop where
  stdout : (e.runBatch input).stdout = (e.records input).flatMap Prod.fst
  stderr : (e.runBatch input).stderr = (e.records input).flatMap Prod.snd
  code : (∀ line ∈ Lines.split input, Lines.IsReadable line) →
    (e.runBatch input).returned = .ok (if (e.runBatch input).stderr = [] then 0 else 1)
  unreadable : (∃ line ∈ Lines.split input, ¬ Lines.IsReadable line) →
    (e.runBatch input).returned = .error Batch.unreadableMessage

/-- A run over two streams, one behind the other, writes what the runs over each of them write, but
for the numbers of the later lines. It fails if one of the two fails, and it is given up if the
second one is. -/
structure RunsApart (first second : Bytes) : Prop where
  stdout : (e.runBatch (first ++ second)).stdout =
    (e.runBatch first).stdout ++ (e.runBatch second).stdout
  stderr : (e.runBatch (first ++ second)).stderr =
    (e.runBatch first).stderr ++ ((e.runBatch second).renumber (first.count Lines.newline)).stderr
  code : (∀ line ∈ Lines.split second, Lines.IsReadable line) →
    (e.runBatch (first ++ second)).returned =
      .ok (if (e.runBatch first).returned = .ok 1 ∨ (e.runBatch second).returned = .ok 1
        then 1 else 0)
  unreadable : (∃ line ∈ Lines.split second, ¬ Lines.IsReadable line) →
    (e.runBatch second).returned = .error Batch.unreadableMessage ∧
      (e.runBatch (first ++ second)).returned = (e.runBatch second).returned

theorem lineByLine (input : Bytes) : e.LineByLine input where
  stdout := by
    rw [records_eq, List.flatMap_map]
    rfl
  stderr := by
    rw [records_eq, List.flatMap_map]
    rfl
  code := by
    intro h
    rw [Batch.returned, if_pos ((e.readable_runBatch input).mpr h), Batch.code_eq]
  unreadable := by
    rintro ⟨line, hline, hbroken⟩
    rw [Batch.returned, if_neg fun h => hbroken ((e.readable_runBatch input).mp h line hline)]

/-- Lines are run one by one: a stream is a sequence of records, and a part of it that ends where a
line ends may be run apart. -/
theorem lines_run_apart {first : Bytes} (second : Bytes) (utf8 : (Utf8.decode? first).isSome)
    (ended : Lines.Ended first) :
    e.RunsApart first second ∧ e.LineByLine (first ++ second) := by
  obtain ⟨s, hs⟩ := Option.isSome_iff_exists.mp utf8
  obtain rfl := Utf8.eq_encode_of_decode? hs
  have hwhole := e.runBatch_append ended second
  have hfirst : (e.runBatch (Utf8.encode s)).readable = true := by
    rw [readable_runBatch]
    exact fun line hline => Lines.isReadable_of_mem_split_encode hline
  refine ⟨⟨?_, ?_, ?_, ?_⟩, e.lineByLine _⟩
  · rw [hwhole, Batch.stdout_followedBy, Batch.stdout_renumber]
  · rw [hwhole, Batch.stderr_followedBy]
  · intro h
    have hsecond := (e.readable_runBatch second).mpr h
    have hboth : (e.runBatch (Utf8.encode s ++ second)).readable = true := by
      rw [hwhole]
      exact hsecond
    rw [Batch.returned, Batch.returned, Batch.returned, if_pos hboth, if_pos hfirst,
      if_pos hsecond, hwhole, Batch.code_followedBy, Batch.code_renumber]
    simp only [Except.ok.injEq]
  · rintro ⟨line, hline, hbroken⟩
    have hboth : line ∈ Lines.split (Utf8.encode s ++ second) := by
      rw [Lines.split_append ended]
      exact List.mem_append_right _ hline
    have hsecond := (e.lineByLine second).unreadable ⟨line, hline, hbroken⟩
    exact ⟨hsecond, ((e.lineByLine _).unreadable ⟨line, hboth, hbroken⟩).trans hsecond.symm⟩

/-- A failing line, a blank one and a line with a value before a stream that cannot be read to its
end. What is printed shows that the blanks around a line are taken off, and that the lines of the
second stream are numbered behind those of the first. -/
theorem lines_run_apart_unreadable :
    let first := Utf8.encode "  1+\n \n2\t\n".toList
    let second := Utf8.encode "(\n 17 \n".toList ++ [0xff, Lines.newline] ++ Utf8.encode "8".toList
    (Utf8.decode? first).isSome ∧ Lines.Ended first ∧
      default.RunsApart first second ∧ default.LineByLine (first ++ second) ∧
      (default.runBatch (first ++ second)).stdout = "2\n17\n".toList ∧
      (default.runBatch (first ++ second)).stderr =
        "line 1: unexpected trailing input at byte offset 1: \"+\" (parsed value: 1)\n".toList ++
          "line 4: invalid expression: \"(\"\n".toList ∧
      (default.runBatch (first ++ second)).returned = .error Batch.unreadableMessage := by
  intro first second
  have utf8 : (Utf8.decode? first).isSome := by rw [Utf8.decode?_encode, Option.isSome_some]
  have ended : Lines.Ended first := by decide
  obtain ⟨happart, hlines⟩ := default.lines_run_apart second utf8 ended
  have hbroken : ∃ line ∈ Lines.split (first ++ second), ¬ Lines.IsReadable line :=
    ⟨[0xff], by decide, by decide +kernel⟩
  refine ⟨utf8, ended, happart, hlines, ?_, ?_, hlines.unreadable hbroken⟩
  · -- The streams are put together from those of the two runs.
    rw [happart.stdout]
    decide +kernel
  · rw [happart.stderr]
    decide +kernel

end Evaluator

end ExprCalc
