import ExprCalc.CommandLine.Program
import ExprCalc.Proofs.BatchLines

/-!
# The exit status

The exit code of a run tells what has happened: zero that nothing was reported, one that something
could not be evaluated, and two that the arguments were refused. An evaluation reports exactly what
it could not do, be it one text (`Evaluator.status_runSingle`) or a stream
(`Evaluator.status_outcome`), and what remains are the runs that end before any evaluation
(`CommandLine.status_tells`).
-/

set_option autoImplicit false

namespace ExprCalc

/-- The outcome of an evaluation in which something has failed or not: code one and a report in the
first case, code zero and none in the second. -/
structure Outcome.Status (o : Outcome) (failed : Prop) : Prop where
  of_failed : failed → o.code = 1 ∧ o.stderr ≠ []
  of_not_failed : ¬ failed → o.code = 0 ∧ o.stderr = []

namespace Outcome.Status

variable {o : Outcome} {failed : Prop}

theorem code_eq_one_iff (h : o.Status failed) : o.code = 1 ↔ failed := by
  refine ⟨fun hone => ?_, fun hfailed => (h.of_failed hfailed).1⟩
  by_contra hnot
  rw [(h.of_not_failed hnot).1] at hone
  cases hone

theorem code_eq_zero_iff (h : o.Status failed) : o.code = 0 ↔ o.stderr = [] := by
  by_cases hfailed : failed
  · obtain ⟨hcode, hreport⟩ := h.of_failed hfailed
    rw [hcode]
    exact ⟨fun hzero => absurd hzero (by decide), fun hnil => absurd hnil hreport⟩
  · obtain ⟨hcode, hreport⟩ := h.of_not_failed hfailed
    exact ⟨fun _ => hreport, fun _ => hcode⟩

theorem code_lt_two (h : o.Status failed) : o.code < 2 := by
  by_cases hfailed : failed
  · rw [(h.of_failed hfailed).1]
    decide
  · rw [(h.of_not_failed hfailed).1]
    decide

end Outcome.Status

/-! ## Evaluations -/

namespace Text

theorem line_ne_nil (s : Text) : s.line ≠ [] :=
  List.append_ne_nil_of_right_ne_nil s (List.cons_ne_nil _ _)

end Text

namespace Evaluator

variable (e : Evaluator)

/-- The evaluation of the text answers with an error. -/
def Fails (s : Text) : Prop := ∃ err, e.evaluate s = .error err

/-- Something in a byte stream cannot be evaluated: a line before the first unreadable one, or the
unreadable line itself. -/
def FailsOn (input : Bytes) : Prop :=
  (∃ line ∈ Lines.texts input, line.trim ≠ [] ∧ e.Fails line.trim) ∨
    ∃ line ∈ Lines.split input, ¬ Lines.IsReadable line

theorem status_runSingle (s : Text) : (e.runSingle s).Status (e.Fails s.trim) := by
  unfold runSingle Fails
  cases e.evaluate s.trim with
  | ok v =>
      refine ⟨?_, fun _ => ⟨rfl, rfl⟩⟩
      rintro ⟨err, h⟩
      cases h
  | error err => exact ⟨fun _ => ⟨rfl, err.message.line_ne_nil⟩, fun h => absurd ⟨err, rfl⟩ h⟩

/-- A line is evaluated and fails if and only if it is not blank and its text fails. -/
theorem exists_failed_iff (line : Text) (number : Nat) :
    (∃ l, e.evaluateLine? line number = some l ∧ l.failed = true) ↔
      line.trim ≠ [] ∧ e.Fails line.trim := by
  unfold evaluateLine? Fails
  by_cases hnil : line.trim = []
  · simp [hnil]
  · cases e.evaluate line.trim <;> simp [hnil, BatchLine.failed]

/-- A batch reports on its lines if and only if a line that is read fails. -/
theorem stderr_runBatch_ne_nil_iff (input : Bytes) :
    (e.runBatch input).stderr ≠ [] ↔
      ∃ line ∈ Lines.texts input, line.trim ≠ [] ∧ e.Fails line.trim := by
  rw [← Batch.any_failed_iff, List.any_eq_true, lines_runBatch, evaluateFrom]
  constructor
  · rintro ⟨l, hl, hfailed⟩
    obtain ⟨⟨line, number⟩, hmem, hsome⟩ := List.mem_filterMap.mp hl
    have hfails := (e.exists_failed_iff line number).mp ⟨l, hsome, hfailed⟩
    exact ⟨line, List.fst_mem_of_mem_zipIdx hmem, hfails⟩
  · rintro ⟨line, hmem, hfails⟩
    rw [← List.zipIdx_map_fst 1 (Lines.texts input)] at hmem
    obtain ⟨⟨_, number⟩, hnumber, rfl⟩ := List.mem_map.mp hmem
    obtain ⟨l, hsome, hfailed⟩ := (e.exists_failed_iff _ number).mpr hfails
    exact ⟨l, List.mem_filterMap.mpr ⟨_, hnumber, hsome⟩, hfailed⟩

theorem status_outcome (input : Bytes) :
    (e.runBatch input).outcome.Status (e.FailsOn input) := by
  have hreadable := e.readable_runBatch input
  unfold Batch.outcome
  cases h : (e.runBatch input).readable with
  | false =>
      -- The report on the unreadable line comes after those on the lines before it.
      rw [h] at hreadable
      have hbroken : ∃ line ∈ Lines.split input, ¬ Lines.IsReadable line := by
        have hall := mt hreadable.mpr Bool.false_ne_true
        push Not at hall
        exact hall
      have hreport := List.append_ne_nil_of_right_ne_nil (e.runBatch input).stderr
        (Text.line_ne_nil ("i/o error: ".toList ++ Batch.unreadableMessage))
      exact ⟨fun _ => ⟨rfl, hreport⟩, fun hnot => absurd (Or.inr hbroken) hnot⟩
  | true =>
      have hcode := (e.runBatch input).code_eq
      have hfails : e.FailsOn input ↔ (e.runBatch input).stderr ≠ [] := by
        have hnone : ¬ ∃ line ∈ Lines.split input, ¬ Lines.IsReadable line := by
          rintro ⟨line, hline, hbroken⟩
          exact hbroken (hreadable.mp h line hline)
        rw [FailsOn, or_iff_left hnone, stderr_runBatch_ne_nil_iff]
      refine ⟨fun hfail => ?_, fun hnot => ?_⟩
      · have hreport := hfails.mp hfail
        exact ⟨hcode.trans (if_neg hreport), hreport⟩
      · have hsilent := not_not.mp (mt hfails.mpr hnot)
        exact ⟨hcode.trans (if_pos hsilent), hsilent⟩

end Evaluator

/-! ## Runs of the program -/

namespace CommandLine

/-- Something fails in the evaluation that the settings ask for. -/
def Settings.Fails (s : Settings) (stdin : Bytes) : Prop :=
  match s.expression with
  | some input => s.evaluator.Fails input.trim
  | none => s.evaluator.FailsOn stdin

theorem Settings.status_outcome (s : Settings) (stdin : Bytes) :
    (s.outcome stdin).Status (s.Fails stdin) := by
  unfold Settings.outcome Settings.Fails
  cases s.expression with
  | none => exact s.evaluator.status_outcome stdin
  | some input => exact s.evaluator.status_runSingle input

theorem UsageError.message_ne_nil (e : UsageError) : e.message ≠ [] :=
  List.append_ne_nil_of_right_ne_nil _ (by decide)

/-- What the exit code of a run tells. It is zero if and only if nothing has been reported, and two
if and only if the arguments or the environment were refused; then nothing else is written, and the
standard input plays no part. Where something is evaluated, it is one if and only if something fails
in this evaluation. -/
structure StatusTells (args : List Bytes) (env : Environment) (stdin : Bytes) : Prop where
  range : (run args env stdin).code ∈ [0, 1, 2]
  silent : (run args env stdin).code = 0 ↔ (run args env stdin).stderr = []
  refused : (run args env stdin).code = 2 ↔ ∃ e, settings args env = .error (.usage e)
  alone : (run args env stdin).code = 2 →
    (run args env stdin).stdout = [] ∧ ∀ stdin', run args env stdin' = run args env stdin
  evaluated : ∀ s, settings args env = .ok s →
    ((run args env stdin).code = 1 ↔ s.Fails stdin)

section

variable {args : List Bytes} {env : Environment}

theorem StatusTells.of_settings {s : Settings} (h : settings args env = .ok s) (stdin : Bytes) :
    StatusTells args env stdin := by
  have hstatus := s.status_outcome stdin
  rw [← run_of_settings_ok h] at hstatus
  have hlt := hstatus.code_lt_two
  have hne : (run args env stdin).code ≠ 2 := Nat.ne_of_lt hlt
  refine ⟨?_, hstatus.code_eq_zero_iff, ?_, fun htwo => absurd htwo hne, ?_⟩
  · simp only [List.mem_cons, List.not_mem_nil, or_false]
    omega
  · rw [h]
    refine ⟨fun htwo => absurd htwo hne, ?_⟩
    rintro ⟨e, he⟩
    cases he
  · intro s' hs'
    obtain rfl := Except.ok.inj (h.symm.trans hs')
    exact hstatus.code_eq_one_iff

/-- Refused arguments are reported, and the report is never empty. -/
theorem StatusTells.of_usage {e : UsageError} (h : settings args env = .error (.usage e))
    (stdin : Bytes) : StatusTells args env stdin := by
  have hrun (stdin : Bytes) : run args env stdin = ⟨2, [], e.message⟩ :=
    run_of_settings_error h stdin
  have hcode : (run args env stdin).code = 2 := congrArg Outcome.code (hrun stdin)
  have hreport : (run args env stdin).stderr ≠ [] := by
    rw [hrun]
    exact e.message_ne_nil
  refine ⟨?_, ?_, ⟨fun _ => ⟨e, h⟩, fun _ => hcode⟩, fun _ => ⟨?_, fun stdin' => ?_⟩, ?_⟩
  · rw [hcode]
    decide
  · rw [hcode]
    exact ⟨fun hzero => absurd hzero (by decide), fun hnil => absurd hnil hreport⟩
  · rw [hrun]
  · rw [hrun, hrun]
  · intro s hs
    cases h.symm.trans hs

/-- Help and version are written to the standard output. -/
theorem StatusTells.of_answer {stop : Stop} (h : settings args env = .error stop) {answer : Text}
    (hanswer : stop.outcome env = ⟨0, answer, []⟩) (stdin : Bytes) :
    StatusTells args env stdin := by
  have hrun : run args env stdin = ⟨0, answer, []⟩ := (run_of_settings_error h stdin).trans hanswer
  have hcode : (run args env stdin).code = 0 := congrArg Outcome.code hrun
  have hne : (run args env stdin).code ≠ 2 := by
    rw [hcode]
    decide
  refine ⟨?_, ⟨fun _ => by rw [hrun], fun _ => hcode⟩, ⟨fun htwo => absurd htwo hne, ?_⟩,
    fun htwo => absurd htwo hne, ?_⟩
  · rw [hcode]
    decide
  · rintro ⟨e, he⟩
    obtain rfl := Except.error.inj (h.symm.trans he)
    cases hanswer
  · intro s hs
    cases h.symm.trans hs

end

/-- The exit code of every run tells what has happened. -/
theorem status_tells (args : List Bytes) (env : Environment) (stdin : Bytes) :
    StatusTells args env stdin := by
  cases h : settings args env with
  | ok s => exact .of_settings h stdin
  | error stop =>
      cases stop with
      | usage e => exact .of_usage h stdin
      | help => exact .of_answer h rfl stdin
      | version => exact .of_answer h rfl stdin

/-- With an expression the standard input is not read. A line of it that is not UTF-8 is no failure
then, and the code stays zero. -/
theorem unread_line_is_no_failure :
    let args := [Utf8.encode "1+1".toList]
    let stdin : Bytes := [0xff]
    let s : Settings := ⟨.default, some "1+1".toList⟩
    settings args {} = .ok s ∧ run args {} stdin = ⟨0, "2\n".toList, []⟩ ∧
      ¬ ((run args {} stdin).code = 1 ↔
        s.Fails stdin ∨ ∃ line ∈ Lines.split stdin, ¬ Lines.IsReadable line) := by
  intro args stdin s
  have hrun : run args {} stdin = ⟨0, "2\n".toList, []⟩ := by decide +kernel
  have hbroken : ∃ line ∈ Lines.split stdin, ¬ Lines.IsReadable line :=
    ⟨[0xff], by decide +kernel, by decide +kernel⟩
  refine ⟨rfl, hrun, fun hiff => ?_⟩
  have hone := hiff.mpr (Or.inr hbroken)
  rw [hrun] at hone
  cases hone

end CommandLine

end ExprCalc
