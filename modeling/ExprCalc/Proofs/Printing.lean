import ExprCalc.Proofs.Layout

/-!
# Printed values

The text of an integer is a literal whose number is the integer (`exists_literal_ofInt`), so the
parsers read a printed word back up to where no digit follows (`Parser.integer_ofInt_append`), the
least word included. A batch prints its values one to a line. Each of these lines is one literal
without parentheses and blanks, so every evaluator accepts it, and a batch over printed values
prints them again (`Evaluator.runBatch_printed`).
-/

set_option autoImplicit false

namespace ExprCalc

/-! ## The text of a number -/

theorem decimal_concat (ds : List Nat) (d : Nat) : decimal (ds ++ [d]) = decimal ds * 10 + d := by
  simp only [decimal, List.reverse_append, List.reverse_singleton, List.singleton_append,
    Nat.ofDigits_cons]
  omega

/-- The text of a natural number is a run of digits that writes this number. -/
theorem exists_digits_ofNat (n : Nat) :
    ∃ ds : List (Fin 10), ds ≠ [] ∧ digitText ds = Text.ofNat n ∧ decimal (ds.map Fin.val) = n := by
  induction n using Nat.strongRecOn with
  | ind n ih =>
      by_cases h : n < 10
      · refine ⟨[⟨n, h⟩], List.cons_ne_nil _ _, ?_, Nat.ofDigits_singleton⟩
        rw [Text.ofNat, Nat.toDigits_of_lt_base h]
        rfl
      · -- The last digit is the remainder by ten, and those before it write the quotient.
        obtain ⟨ds, -, htext, hvalue⟩ := ih (n / 10) (by omega)
        refine ⟨ds ++ [⟨n % 10, Nat.mod_lt n (by omega)⟩], by simp, ?_, ?_⟩
        · rw [Text.ofNat, Nat.toDigits_of_base_le (by omega) (Nat.not_lt.mp h), ← Text.ofNat,
            ← htext]
          exact List.map_append
        · rw [List.map_append, List.map_singleton, decimal_concat, hvalue]
          exact Nat.div_add_mod' n 10

/-- The text of an integer is a literal for this integer. -/
theorem exists_literal_ofInt (n : Int) :
    ∃ l : Literal, l.text = Text.ofInt n ∧ l.number = n := by
  obtain ⟨ds, hds, htext, hvalue⟩ := exists_digits_ofNat n.natAbs
  by_cases hn : n < 0
  · refine ⟨⟨some .minus, ds, hds⟩, ?_, ?_⟩
    · rw [Text.ofInt, if_pos hn, ← htext]
      rfl
    · rw [Literal.number, if_pos rfl, hvalue]
      omega
  · refine ⟨⟨none, ds, hds⟩, ?_, ?_⟩
    · rw [Text.ofInt, if_neg hn, ← htext]
      rfl
    · rw [Literal.number, if_neg (by simp), hvalue]
      omega

/-- A word is read from the literal that is its text. -/
theorem exists_literal_ofWord (v : Int64) :
    ∃ l : Literal, l.text = Text.ofInt v.toInt ∧ l.word? = some v := by
  obtain ⟨l, htext, hnumber⟩ := exists_literal_ofInt v.toInt
  refine ⟨l, htext, ?_⟩
  rw [l.word?_eq, hnumber, Word.signed?_eq_some_iff]

/-- The text of an integer has no blanks. -/
theorem Text.ofInt_not_blank (n : Int) : ∀ c ∈ Text.ofInt n, isBlank c = false := by
  obtain ⟨l, htext, -⟩ := exists_literal_ofInt n
  rw [← htext]
  refine l.forall_mem_text (fun sign => ?_) (by decide)
  cases sign with
  | plus => decide
  | minus => decide

namespace Parser

/-- A printed word is read back up to where no digit follows. -/
theorem integer_ofInt_append (v : Int64) {r : Text} (hr : NoDigit r) :
    integer (Text.ofInt v.toInt ++ r) = [⟨v, r⟩] := by
  obtain ⟨l, htext, hword⟩ := exists_literal_ofWord v
  have hread := signedNumeral_literal_append l hr
  rw [htext, hword] at hread
  exact filterMap_of_eq_singleton hread id

end Parser

/-! ## Printed values -/

namespace Text

/-- Values as they are printed, one to a line. -/
def printed (values : List Int64) : Text := values.flatMap fun v => (ofInt v.toInt).line

/-- A line of printed values is the text of one value. -/
theorem map_trim_lines_printed (values : List Int64) :
    (printed values).lines.map trim = values.map fun v => ofInt v.toInt := by
  induction values with
  | nil => rw [printed, List.flatMap_nil, lines_nil, List.map_nil, List.map_nil]
  | cons v values ih =>
      have hblank := ofInt_not_blank v.toInt
      have hnewline : '\n' ∉ ofInt v.toInt := fun hmem => by
        have hnot := hblank '\n' hmem
        revert hnot
        decide
      have hcons : printed (v :: values) = ofInt v.toInt ++ '\n' :: printed values := by
        rw [printed, List.flatMap_cons, line, List.append_assoc]
        rfl
      rw [hcons, lines_append_newline hnewline, List.map_cons, trim_dropReturn,
        trim_of_forall_not_blank hblank, ih, List.map_cons]

end Text

namespace Batch

/-- The values of the lines that have one. -/
def values (b : Batch) : List Int64 := b.lines.filterMap fun l => l.result.toOption

/-- A batch prints its values and nothing else. -/
theorem stdout_eq_printed (b : Batch) : b.stdout = Text.printed b.values := by
  unfold stdout values Text.printed
  induction b.lines with
  | nil => rfl
  | cons l lines ih =>
      rw [List.flatMap_cons, ih, List.filterMap_cons]
      unfold BatchLine.stdout
      cases l.result with
      | ok value => rfl
      | error err => rfl

end Batch

namespace Evaluator

open ExprCalc.Arithmetic

variable (e : Evaluator)

/-- Every evaluator gives a printed word back. -/
theorem evaluate_ofInt (v : Int64) : e.evaluate (Text.ofInt v.toInt) = .ok v := by
  obtain ⟨l, htext, hword⟩ := exists_literal_ofWord v
  let factor : Tree .factor := .literal l
  let term : Tree .term := .chain (by decide) factor .nil
  let tree : Tree .expression := .chain (by decide) term .nil
  have htree : tree.text = Text.ofInt v.toInt := by
    show (l.text ++ []) ++ [] = _
    rw [List.append_nil, List.append_nil, htext]
  have hvalue : tree.value = some v := by
    show foldChain (foldChain l.word? []) [] = some v
    rw [hword]
    rfl
  have hdepth : Nesting.depth tree.text ≤ e.maxDepth := by
    rw [tree.depth_text]
    exact Nat.zero_le _
  rw [← htree]
  exact evaluate_text tree hvalue hdepth

/-- Every line of printed values is evaluated to its value. -/
theorem evaluateFrom_printed (values : List Int64) (number : Nat) :
    e.evaluateFrom (values.map fun v => Text.ofInt v.toInt) number =
      (values.zipIdx number).map fun (v, number) => ⟨number, Text.ofInt v.toInt, .ok v⟩ := by
  rw [evaluateFrom, List.zipIdx_map, List.filterMap_map]
  have hline (v : Int64) (number : Nat) :
      e.evaluateLine? (Text.ofInt v.toInt) number =
        some ⟨number, Text.ofInt v.toInt, .ok v⟩ := by
    have htrim := Text.trim_of_forall_not_blank (Text.ofInt_not_blank v.toInt)
    have hne : ¬ (Text.ofInt v.toInt).isEmpty := by
      -- The empty text has no value.
      rw [List.isEmpty_iff]
      intro hnil
      have hvalue := e.evaluate_ofInt v
      rw [hnil, evaluate_nil] at hvalue
      cases hvalue
    rw [evaluateLine?, htrim, if_neg hne, e.evaluate_ofInt]
  rw [← List.filterMap_eq_map]
  exact List.filterMap_congr fun line _ => hline line.1 line.2

/-- A batch over printed values prints them again, and reports nothing. -/
theorem runBatch_printed (values : List Int64) :
    (e.runBatch (Utf8.encode (Text.printed values))).EndsWith ⟨0, Text.printed values, []⟩ := by
  rw [runBatch_encode, Text.map_trim_lines_printed, evaluateFrom_printed]
  refine ⟨?_, ?_, ?_⟩
  · simp [Batch.returned, Batch.code, BatchLine.failed]
  · rw [Batch.stdout_eq_printed]
    simp [Batch.values, Except.toOption]
  · rw [Batch.stderr, List.flatMap_eq_nil_iff]
    intro l hl
    obtain ⟨_, -, rfl⟩ := List.mem_map.mp hl
    rfl

/-- What is printed reads back to itself. A printed word is read back in front of anything but a
digit, and what a batch has printed is printed again by a batch over it, under any evaluator. -/
theorem printed_reads_back :
    (∀ (v : Int64) (r : Text), NoDigit r →
      Parser.integer (Text.ofInt v.toInt ++ r) = [⟨v, r⟩]) ∧
    ∀ (e e' : Evaluator) (input : Bytes),
      (e'.runBatch (Utf8.encode (e.runBatch input).stdout)).EndsWith
        ⟨0, (e.runBatch input).stdout, []⟩ := by
  constructor
  · intro v r hr
    exact Parser.integer_ofInt_append v hr
  · intro e e' input
    rw [Batch.stdout_eq_printed]
    exact e'.runBatch_printed _

/-- The least word in front of a sign and a digit, and a batch with a failing line in it whose
values are read back without any parentheses allowed. -/
theorem printed_reads_back_least :
    NoDigit "+1".toList ∧
      Parser.integer "-9223372036854775808+1".toList = [⟨Int64.minValue, "+1".toList⟩] ∧
      let input := Utf8.encode "-9223372036854775807-1\n1/0\n((7))".toList
      let stdout := (default.runBatch input).stdout
      stdout = "-9223372036854775808\n7\n".toList ∧
        ((⟨0, true⟩ : Evaluator).runBatch (Utf8.encode stdout)).EndsWith ⟨0, stdout, []⟩ := by
  have hno : NoDigit "+1".toList := noDigit_cons (by decide) ['1']
  have hread := printed_reads_back.1 Int64.minValue _ hno
  refine ⟨hno, hread, ?_, printed_reads_back.2 _ _ _⟩
  decide +kernel

end Evaluator

end ExprCalc
