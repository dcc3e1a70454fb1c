import ExprCalc.Evaluation.Single
import ExprCalc.Proofs.BatchLines
import ExprCalc.Proofs.Evaluation
import ExprCalc.Proofs.Trimming

/-!
# Layout

Blanks around an expression carry no meaning, and neither does the way in which lines are ended. A
batch sees its lines trimmed (`Evaluator.evaluateFrom_map_trim`), so two texts whose lines differ
only in blanks at their ends make the same batch (`Evaluator.runBatch_congr`). A carriage return
before a newline is such a blank, whether it belongs to the ending or to the line.

In particular a text without a newline may be evaluated alone or as a line of a batch, with the same
result (`Evaluator.layout_irrelevant`).
-/

set_option autoImplicit false

namespace ExprCalc

/-! ## Line endings -/

namespace Text

/-- What may stand behind the last line of a text: nothing, a newline, or a newline with a carriage
return before it. -/
def lineEndings : List Text := [[], ['\n'], ['\r', '\n']]

/-- The text with a carriage return put before every newline. -/
def withReturns (s : Text) : Text := s.flatMap fun c => if c = '\n' then ['\r', '\n'] else [c]

theorem lines_nil : lines [] = [] := by simp [lines]

/-- A text without a newline is one line, if there is anything in it. -/
theorem lines_of_notMem {s : Text} (hs : '\n' ∉ s) : s.lines = [s].filter (· ≠ []) := by
  rw [lines, List.splitOn_eq_singleton hs]
  rfl

/-- What stands before the first newline is the first line. -/
theorem lines_append_newline {line : Text} (hline : '\n' ∉ line) (rest : Text) :
    (line ++ '\n' :: rest).lines = line.dropReturn :: rest.lines := by
  have hne : rest.splitOn '\n' ≠ [] := List.splitOn_ne_nil '\n' rest
  unfold lines
  dsimp only
  rw [List.splitOn_append_cons_self_of_not_mem hline, List.dropLast_cons_of_ne_nil hne,
    List.getLast?_cons_of_ne_nil hne, List.map_cons, List.cons_append]

theorem dropReturn_concat (line : Text) : dropReturn (line ++ ['\r']) = line := by
  rw [dropReturn, if_pos List.getLast?_concat, List.dropLast_concat]

/-- A carriage return at the end of a line is a blank there. -/
theorem trim_concat_return (line : Text) : trim (line ++ ['\r']) = line.trim :=
  trim_append (u := []) (by decide) (by decide) line

theorem trim_dropReturn (line : Text) : line.dropReturn.trim = line.trim := by
  by_cases h : line.getLast? = some '\r'
  · obtain ⟨start, rfl⟩ := List.getLast?_eq_some_iff.mp h
    rw [dropReturn_concat, trim_concat_return]
  · rw [dropReturn, if_neg h]

/-- The line without its ending, where it is the only one. -/
theorem map_trim_lines_append_ending {s ending : Text} (hs : '\n' ∉ s)
    (hending : ending ∈ lineEndings) :
    (s ++ ending).lines.map trim = if s ++ ending = [] then [] else [s.trim] := by
  have hcases : ending = [] ∨ ending = ['\n'] ∨ ending = ['\r', '\n'] := by
    simpa [lineEndings] using hending
  rcases hcases with rfl | rfl | rfl
  · rw [List.append_nil, lines_of_notMem hs, List.filter_singleton]
    by_cases hnil : s = [] <;> simp [hnil]
  · rw [lines_append_newline hs, lines_nil, if_neg (by simp), List.map_singleton, trim_dropReturn]
  · -- The carriage return of the ending is taken as the end of the line.
    have hreturn : '\n' ∉ s ++ ['\r'] := by simpa using hs
    rw [List.append_cons, lines_append_newline hreturn, lines_nil, if_neg (by simp),
      List.map_singleton, trim_dropReturn, trim_concat_return]

theorem withReturns_of_notMem {s : Text} (hs : '\n' ∉ s) : s.withReturns = s := by
  induction s with
  | nil => rfl
  | cons c s ih =>
      rw [List.mem_cons, not_or] at hs
      have hsingle : (if c = '\n' then ['\r', '\n'] else [c]) = [c] := if_neg (Ne.symm hs.1)
      rw [withReturns, List.flatMap_cons, hsingle]
      exact congrArg (c :: ·) (ih hs.2)

theorem withReturns_append_newline {line : Text} (hline : '\n' ∉ line) (rest : Text) :
    (line ++ '\n' :: rest).withReturns = (line ++ ['\r']) ++ '\n' :: rest.withReturns := by
  have hstart := withReturns_of_notMem hline
  unfold withReturns at hstart ⊢
  rw [List.flatMap_append, hstart, List.flatMap_cons, if_pos rfl, List.append_assoc]
  rfl

/-- A carriage return before every newline changes the lines at most by a blank at their ends. -/
theorem map_trim_lines_withReturns (s : Text) :
    s.withReturns.lines.map trim = s.lines.map trim := by
  by_cases h : '\n' ∈ s
  · -- The first line ends in one carriage return more, and the rest is shorter.
    obtain ⟨line, rest, hs, hline⟩ := List.eq_append_cons_of_mem h
    have hreturn : '\n' ∉ line ++ ['\r'] := by simpa using hline
    rw [hs, withReturns_append_newline hline, lines_append_newline hreturn,
      lines_append_newline hline, List.map_cons, List.map_cons,
      map_trim_lines_withReturns rest, dropReturn_concat, trim_dropReturn]
  · rw [withReturns_of_notMem h]
termination_by s.length
decreasing_by
  rw [hs, List.length_append, List.length_cons]
  omega

end Text

/-! ## Batches of texts -/

/-- A run over the batch has been readable to its end, and has left this outcome behind. -/
structure Batch.EndsWith (b : Batch) (o : Outcome) : Prop where
  returned : b.returned = .ok o.code
  stdout : b.stdout = o.stdout
  stderr : b.stderr = o.stderr

namespace Evaluator

variable (e : Evaluator)

/-- A line is evaluated without the blanks at its ends. -/
theorem evaluateLine?_trim (line : Text) (number : Nat) :
    e.evaluateLine? line.trim number = e.evaluateLine? line number := by
  unfold evaluateLine?
  rw [Text.trim_trim]

theorem evaluateFrom_map_trim (lines : List Text) (number : Nat) :
    e.evaluateFrom (lines.map Text.trim) number = e.evaluateFrom lines number := by
  rw [evaluateFrom, List.zipIdx_map, List.filterMap_map]
  exact List.filterMap_congr fun line _ => e.evaluateLine?_trim line.1 line.2

/-- The batch of a text. -/
theorem runBatch_encode (s : Text) :
    e.runBatch (Utf8.encode s) = ⟨e.evaluateFrom (s.lines.map Text.trim) 1, true⟩ := by
  have hreadable : (e.runBatch (Utf8.encode s)).readable = true := by
    rw [readable_runBatch]
    exact fun line hline => Lines.isReadable_of_mem_split_encode hline
  rw [evaluateFrom_map_trim, ← Lines.texts_encode, ← lines_runBatch, ← hreadable]

/-- Texts whose lines are the same but for blanks at their ends make the same batch. -/
theorem runBatch_congr {s t : Text} (h : s.lines.map Text.trim = t.lines.map Text.trim) :
    e.runBatch (Utf8.encode s) = e.runBatch (Utf8.encode t) := by
  rw [runBatch_encode, runBatch_encode, h]

/-- The batch of a single line holds this line, unless it is blank. -/
theorem runBatch_append_ending {s ending : Text} (hs : '\n' ∉ s)
    (hending : ending ∈ Text.lineEndings) :
    e.runBatch (Utf8.encode (s ++ ending)) = ⟨(e.evaluateLine? s 1).toList, true⟩ := by
  rw [runBatch_encode, Text.map_trim_lines_append_ending hs hending]
  split
  · next h =>
      obtain ⟨rfl, -⟩ := List.append_eq_nil_iff.mp h
      rfl
  · next =>
      have hline := e.evaluateFrom_map_trim [s] 1
      rw [List.map_singleton] at hline
      rw [hline, evaluateFrom, List.zipIdx_singleton]
      cases h : e.evaluateLine? s 1 <;> simp [h]

end Evaluator

/-! ## One text alone and as a line -/

/-- The outcome with what was reported, if anything, reported for line one. -/
def Outcome.onLineOne (o : Outcome) : Outcome :=
  { o with stderr := if o.stderr = [] then [] else "line 1: ".toList ++ o.stderr }

namespace Evaluator

open ExprCalc.Arithmetic

variable (e : Evaluator)

/-- A text that is not blank is evaluated alike alone and as a line. -/
theorem endsWith_runSingle {s ending : Text} (hs : '\n' ∉ s) (hne : s.trim ≠ [])
    (hending : ending ∈ Text.lineEndings) :
    (e.runBatch (Utf8.encode (s ++ ending))).EndsWith (e.runSingle s).onLineOne := by
  have hline : e.evaluateLine? s 1 = some ⟨1, s.trim, e.evaluate s.trim⟩ :=
    if_neg (mt List.isEmpty_iff.mp hne)
  rw [runBatch_append_ending e hs hending, hline, runSingle]
  cases hvalue : e.evaluate s.trim with
  | ok v =>
      exact ⟨rfl, List.append_nil _, rfl⟩
  | error err =>
      refine ⟨rfl, rfl, ?_⟩
      have hone : Text.ofNat 1 = ['1'] := rfl
      simp [Batch.stderr, BatchLine.stderr, Outcome.onLineOne, hone, Text.line]

/-- A blank text is no expression where it stands alone, and is passed over as a line. -/
theorem endsWith_of_blank {s ending : Text} (hs : '\n' ∉ s) (hnil : s.trim = [])
    (hending : ending ∈ Text.lineEndings) :
    (e.runBatch (Utf8.encode (s ++ ending))).EndsWith ⟨0, [], []⟩ := by
  have hline : e.evaluateLine? s 1 = none := if_pos (List.isEmpty_iff.mpr hnil)
  rw [runBatch_append_ending e hs hending, hline]
  exact ⟨rfl, rfl, rfl⟩

/-- No expression stands in the empty text, and the depth limit does not come into it. -/
theorem evaluate_nil : e.evaluate [] = .error (.noExpression []) := by
  have hdepth : Nesting.depth [] ≤ e.maxDepth := Nat.zero_le _
  have hnone : Level.expression.parser [] = [] :=
    Parser.filterMap_of_eq_nil (checked_eq_nil fun t h => t.text_ne_nil (List.prefix_nil.mp h)) id
  rw [evaluate_of_depth_le hdepth, hnone]
  rfl

theorem runSingle_of_blank {s : Text} (hnil : s.trim = []) :
    e.runSingle s = ⟨1, [], (EvalError.noExpression []).message.line⟩ := by
  rw [runSingle, hnil, evaluate_nil]

/-- How a text without a newline is evaluated alone and as a line with any ending, and that blanks
around it make no difference to either. -/
structure LayoutFree (s : Text) : Prop where
  value : s.trim ≠ [] → ∀ ending ∈ Text.lineEndings,
    (e.runBatch (Utf8.encode (s ++ ending))).EndsWith (e.runSingle s).onLineOne
  blank : s.trim = [] →
    (∀ ending ∈ Text.lineEndings,
      (e.runBatch (Utf8.encode (s ++ ending))).EndsWith ⟨0, [], []⟩) ∧
    e.runSingle s = ⟨1, [], (EvalError.noExpression []).message.line⟩
  padding : ∀ u v : Text, u.IsBlank → v.IsBlank → '\n' ∉ u ++ v →
    e.runSingle (u ++ s ++ v) = e.runSingle s ∧
    ∀ ending ∈ Text.lineEndings,
      e.runBatch (Utf8.encode (u ++ s ++ v ++ ending)) = e.runBatch (Utf8.encode (s ++ ending))

/-- The layout of a text makes no difference. A text without a newline has the same outcome alone
and as a line, but for the number of the line, and but for blank texts, which are no expression and
no line; blanks around it do not count. In any text, a carriage return may stand before every
newline or not. -/
theorem layout_irrelevant :
    (∀ s : Text, '\n' ∉ s → e.LayoutFree s) ∧
      ∀ t : Text, e.runBatch (Utf8.encode t.withReturns) = e.runBatch (Utf8.encode t) := by
  refine ⟨fun s hs => ⟨?_, ?_, ?_⟩, fun t => ?_⟩
  · intro hne ending hending
    exact e.endsWith_runSingle hs hne hending
  · intro hnil
    exact ⟨fun ending hending => e.endsWith_of_blank hs hnil hending, e.runSingle_of_blank hnil⟩
  · intro u v hu hv hnewline
    have htrim : (u ++ s ++ v).trim = s.trim := Text.trim_append hu hv s
    have hpadded : '\n' ∉ u ++ s ++ v := by
      rw [List.mem_append, not_or] at hnewline
      rw [List.mem_append, List.mem_append, not_or, not_or]
      exact ⟨⟨hnewline.1, hs⟩, hnewline.2⟩
    refine ⟨by rw [runSingle, runSingle, htrim], fun ending hending => ?_⟩
    rw [runBatch_append_ending e hpadded hending, runBatch_append_ending e hs hending,
      ← evaluateLine?_trim, htrim, evaluateLine?_trim]
  · exact e.runBatch_congr t.map_trim_lines_withReturns

/-- A wide blank before an expression with a character of two bytes behind it, and a stray carriage
return at the end: the offset in the report counts from where the expression starts. Padded with a
line separator and other blanks it is the same text, and blanks alone are no line. -/
theorem layout_irrelevant_wide_blanks :
    let s : Text := "\u3000(1+2)é\r".toList
    let blanks : Text := "\t\r".toList
    let u : Text := "\u2028".toList
    let v : Text := "\r\u0085".toList
    let report : Text :=
      "line 1: unexpected trailing input at byte offset 5: \"é\" (parsed value: 3)\n".toList
    ('\n' ∉ s ∧ s.trim ≠ [] ∧
      (default.runBatch (Utf8.encode (s ++ ['\r', '\n']))).EndsWith ⟨1, [], report⟩) ∧
      (u.IsBlank ∧ v.IsBlank ∧ '\n' ∉ u ++ v ∧
        default.runSingle (u ++ s ++ v) = default.runSingle s) ∧
      '\n' ∉ blanks ∧ blanks.trim = [] ∧
        (default.runBatch (Utf8.encode (blanks ++ ['\n']))).EndsWith ⟨0, [], []⟩ := by
  intro s blanks u v report
  have hs : '\n' ∉ s := by decide
  have hne : s.trim ≠ [] := by decide
  have hblanks : '\n' ∉ blanks := by decide
  have hnil : blanks.trim = [] := by decide
  have hu : u.IsBlank := by decide
  have hv : v.IsBlank := by decide
  have huv : '\n' ∉ u ++ v := by decide
  have hreport : (default.runSingle s).onLineOne = ⟨1, [], report⟩ := by decide +kernel
  have hfree := default.layout_irrelevant.1 s hs
  have hline := hfree.value hne ['\r', '\n'] (by decide)
  rw [hreport] at hline
  have hskip := ((default.layout_irrelevant.1 blanks hblanks).blank hnil).1 ['\n'] (by decide)
  exact ⟨⟨hs, hne, hline⟩, ⟨hu, hv, huv, (hfree.padding u v hu hv huv).1⟩, hblanks, hnil, hskip⟩

end Evaluator

end ExprCalc
