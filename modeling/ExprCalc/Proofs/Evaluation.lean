import ExprCalc.Evaluation.Evaluator
import ExprCalc.Proofs.Nesting
import ExprCalc.Proofs.Recognition

/-!
# What an evaluation answers

An evaluation answers with one of three errors or with a value, and each answer is told by the
nesting of the text and by the longest expression at its start (`Evaluator.evaluate_eq_tooDeep_iff`,
`Evaluator.evaluate_eq_ok_iff`, `Evaluator.evaluate_eq_leftover_iff`).

A leftover points at the end of the longest accepted start of the text
(`Evaluator.leftover_longest_accepted`). The longest expression at the start of a text is also the
longest one at the start of its own text, and every accepted start of the text is an expression, so
no run of the parser on a cut text has to be followed.
-/

set_option autoImplicit false

namespace ExprCalc

/-- A character of the text starts at the byte `k`, or the text ends there. -/
def Text.IsBoundary (s : Text) (k : Nat) : Prop := ∃ p r, p ++ r = s ∧ p.byteCount = k

namespace Arithmetic

/-- The longest tree at the start of a text is the longest one at the start of its own text. -/
theorem Tree.isLongest_text {l : Level} (t : Tree l) : t.IsLongest t.text :=
  ⟨List.prefix_refl _, fun _ h => h.length_le⟩

end Arithmetic

namespace Evaluator

open ExprCalc.Arithmetic

variable {e : Evaluator} {s : Text}

/-! ## The answers -/

/-- A text that nests within the limit is settled by its first reading. -/
theorem evaluate_of_depth_le (h : Nesting.depth s ≤ e.maxDepth) :
    e.evaluate s =
      match (Level.expression.parser s).head? with
      | none => .error (.noExpression s)
      | some r =>
          if r.rest.isEmpty || e.allowTrailing then .ok r.value
          else .error (.leftover r.value (s.byteCount - r.rest.byteCount) r.rest) :=
  if_neg (Nat.not_lt.2 h)

/-- A text is turned away for its depth if and only if this is beyond the limit. -/
theorem evaluate_eq_tooDeep_iff {depth limit : Nat} :
    e.evaluate s = .error (.tooDeep depth limit) ↔
      e.maxDepth < Nesting.depth s ∧ depth = Nesting.depth s ∧ limit = e.maxDepth := by
  by_cases h : e.maxDepth < Nesting.depth s
  · have heval : e.evaluate s = .error (.tooDeep (Nesting.depth s) e.maxDepth) := if_pos h
    rw [heval, Except.error.injEq, EvalError.tooDeep.injEq]
    exact ⟨fun ⟨hd, hl⟩ => ⟨h, hd.symm, hl.symm⟩, fun ⟨_, hd, hl⟩ => ⟨hd.symm, hl.symm⟩⟩
  · refine ⟨fun heval => ?_, fun hdepth => absurd hdepth.1 h⟩
    rw [evaluate_of_depth_le (Nat.not_lt.1 h)] at heval
    split at heval
    · cases heval
    · split at heval <;> cases heval

/-- An answer that is not about the depth is given only within the limit. -/
theorem depth_le_of_ne_tooDeep (h : ∀ depth limit, e.evaluate s ≠ .error (.tooDeep depth limit)) :
    Nesting.depth s ≤ e.maxDepth := by
  refine Nat.not_lt.1 fun hlt => ?_
  exact h _ _ (evaluate_eq_tooDeep_iff.2 ⟨hlt, rfl, rfl⟩)

/-- A value is given within the limit, for the longest expression at the start of the text, and
with text after it only if this is allowed. -/
theorem evaluate_eq_ok_iff {v : Int64} :
    e.evaluate s = .ok v ↔
      Nesting.depth s ≤ e.maxDepth ∧
        ∃ (t : Tree .expression) (rest : Text), t.IsLongest s ∧ t.text ++ rest = s ∧
          t.value = some v ∧ (rest = [] ∨ e.allowTrailing = true) := by
  constructor
  · intro heval
    have hdepth : Nesting.depth s ≤ e.maxDepth := depth_le_of_ne_tooDeep (by simp [heval])
    rw [evaluate_of_depth_le hdepth] at heval
    split at heval
    · cases heval
    · next r hr =>
        split at heval
        · next hend =>
            cases heval
            obtain ⟨t, ht, htext, hvalue⟩ := head?_parser_eq_some_iff.1 hr
            rw [Bool.or_eq_true, List.isEmpty_iff] at hend
            exact ⟨hdepth, t, r.rest, ht, htext, hvalue, hend⟩
        · cases heval
  · rintro ⟨hdepth, t, rest, ht, htext, hvalue, hend⟩
    have hread := head?_parser_eq_some_iff.2 ⟨t, ht, htext, hvalue⟩
    rw [evaluate_of_depth_le hdepth, hread]
    refine if_pos ?_
    rw [Bool.or_eq_true, List.isEmpty_iff]
    exact hend

/-- A leftover is reported within the limit, for the longest expression at the start of the text,
where text after it is not allowed and there is some. -/
theorem evaluate_eq_leftover_iff {v : Int64} {offset : Nat} {remainder : Text} :
    e.evaluate s = .error (.leftover v offset remainder) ↔
      Nesting.depth s ≤ e.maxDepth ∧ e.allowTrailing = false ∧
        ∃ t : Tree .expression, t.IsLongest s ∧ t.text ++ remainder = s ∧ t.value = some v ∧
          remainder ≠ [] ∧ offset = t.text.byteCount := by
  have hoffset : ∀ {t : Tree .expression} {r : Text}, t.text ++ r = s →
      s.byteCount - r.byteCount = t.text.byteCount := by
    rintro t r rfl
    rw [Text.byteCount_append, Nat.add_sub_cancel]
  constructor
  · intro heval
    have hdepth : Nesting.depth s ≤ e.maxDepth := depth_le_of_ne_tooDeep (by simp [heval])
    rw [evaluate_of_depth_le hdepth] at heval
    split at heval
    · cases heval
    · next r hr =>
        split at heval
        · cases heval
        · next hend =>
            cases heval
            obtain ⟨t, ht, htext, hvalue⟩ := head?_parser_eq_some_iff.1 hr
            rw [Bool.or_eq_true, List.isEmpty_iff, not_or, Bool.not_eq_true] at hend
            exact ⟨hdepth, hend.2, t, ht, htext, hvalue, hend.1, hoffset htext⟩
  · rintro ⟨hdepth, htrailing, t, ht, htext, hvalue, hne, rfl⟩
    have hread := head?_parser_eq_some_iff.2 ⟨t, ht, htext, hvalue⟩
    rw [evaluate_of_depth_le hdepth, hread, ← hoffset htext]
    refine if_neg ?_
    rw [Bool.or_eq_true, List.isEmpty_iff, htrailing]
    rintro (hnil | hfalse)
    · exact hne hnil
    · cases hfalse

/-! ## Leftovers -/

/-- A text that is accepted although nothing may follow its expression is an expression. -/
theorem exists_text_eq_of_ok {v : Int64} (htrailing : e.allowTrailing = false)
    (h : e.evaluate s = .ok v) : ∃ t : Tree .expression, t.text = s := by
  obtain ⟨-, t, rest, -, htext, -, hend⟩ := evaluate_eq_ok_iff.1 h
  rcases hend with rfl | htrue
  · rw [List.append_nil] at htext
    exact ⟨t, htext⟩
  · rw [htrailing] at htrue
    cases htrue

/-- The text of a tree is accepted, whatever may follow an expression, if it has a value and nests
within the limit. -/
theorem evaluate_text (t : Tree .expression) {v : Int64} (hvalue : t.value = some v)
    (hdepth : Nesting.depth t.text ≤ e.maxDepth) : e.evaluate t.text = .ok v :=
  evaluate_eq_ok_iff.2 ⟨hdepth, t, [], t.isLongest_text, List.append_nil _, hvalue, Or.inl rfl⟩

/-- A leftover points at the end of the longest start of the text that is accepted. The offset is
the position of a character inside the text, and the remainder is the text from there on. Cut off
at the offset, the text has the value of the report, and cut off anywhere later it has none. With
text allowed after an expression, the whole text has this value as well. -/
theorem leftover_longest_accepted {v : Int64} {offset : Nat} {remainder : Text}
    (h : e.evaluate s = .error (.leftover v offset remainder)) :
    (s.IsBoundary offset ∧ 0 < offset ∧ offset < s.byteCount) ∧
      s.takeBytes offset ++ remainder = s ∧
      e.evaluate (s.takeBytes offset) = .ok v ∧
      (∀ k, offset < k → s.IsBoundary k → ∀ w, e.evaluate (s.takeBytes k) ≠ .ok w) ∧
      ({ e with allowTrailing := true } : Evaluator).evaluate s = .ok v := by
  obtain ⟨hdepth, htrailing, t, ht, rfl, hvalue, hne, rfl⟩ := evaluate_eq_leftover_iff.1 h
  -- The text is that of the longest tree `t` and the remainder, and the cut is between them.
  have hpos : 0 < t.text.byteCount :=
    Nat.pos_of_ne_zero (mt (Text.byteCount_eq_zero_iff _).1 t.text_ne_nil)
  have hlt : t.text.byteCount < (t.text ++ remainder).byteCount := by
    have hremainder := mt (Text.byteCount_eq_zero_iff remainder).1 hne
    rw [Text.byteCount_append]
    omega
  refine ⟨⟨⟨t.text, remainder, rfl, rfl⟩, hpos, hlt⟩, ?_, ?_, ?_, ?_⟩
  · rw [Text.takeBytes_append]
  · rw [Text.takeBytes_append]
    exact evaluate_text t hvalue (Nat.le_trans (Nesting.depth_le_depth_append _ _) hdepth)
  · rintro k hk ⟨p, r, hp, rfl⟩ w hw
    rw [← hp, Text.takeBytes_append] at hw
    -- The longer cut would be the text of a tree, and `t` is the longest.
    obtain ⟨t', rfl⟩ := exists_text_eq_of_ok htrailing hw
    have hprefix : t'.text <+: t.text ++ remainder := ⟨r, hp⟩
    obtain ⟨q, hq⟩ := List.prefix_of_prefix_length_le hprefix (List.prefix_append _ _)
      (ht.2 t' hprefix)
    rw [← hq, Text.byteCount_append] at hk
    omega
  · exact evaluate_eq_ok_iff.2 ⟨hdepth, t, remainder, ht, rfl, hvalue, Or.inr rfl⟩

/-- An operator without an operand and a character of two bytes are left over from byte seven on:
of all cuts of the text from there, only the one at byte seven has a value. -/
theorem leftover_of_dangling_operator :
    ({} : Evaluator).evaluate "2*(3+4)+é".toList = .error (.leftover 14 7 "+é".toList) ∧
      ({} : Evaluator).evaluate (Text.takeBytes 7 "2*(3+4)+é".toList) = .ok 14 ∧
      ∀ k, 7 < k → Text.IsBoundary "2*(3+4)+é".toList k →
        ∀ w, ({} : Evaluator).evaluate (Text.takeBytes k "2*(3+4)+é".toList) ≠ .ok w := by
  have h : ({} : Evaluator).evaluate "2*(3+4)+é".toList =
      .error (.leftover 14 7 "+é".toList) := by
    decide +kernel
  obtain ⟨-, -, hcut, hlater, -⟩ := leftover_longest_accepted h
  exact ⟨h, hcut, hlater⟩

end Evaluator

end ExprCalc
