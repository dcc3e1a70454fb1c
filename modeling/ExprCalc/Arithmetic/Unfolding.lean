import ExprCalc.Arithmetic
import ExprCalc.Parser.Remainder

/-!
# The rules of the arithmetic grammar as equations

The circle of the three rules is closed by counting levels, and this module takes the count away
again. `expressionWithin_eq` says that two counts give the same readings once both exceed the
length of the text, and `nested_eq` that the closed parser satisfies the rule for expressions with
itself inside the parentheses. With it, `Level.checked_eq` states the three rules as the grammar
does.

The reason is that `inner` is run after an opening parenthesis only. So the rules for two parsers
that agree on all shorter ends of a text agree on this text.
-/

set_option autoImplicit false

namespace ExprCalc

namespace Arithmetic

open ExprCalc.Parser

/-! ## Remainders -/

theorem leavesSuffix_chain {operand : Parser (Option Int64)} (h : LeavesSuffix operand)
    (symbols : Text) : LeavesSuffix (chain operand symbols) :=
  (h.andThen ((leavesSuffix_operator symbols).andThen h).many).map _

theorem leavesSuffix_factorWith {inner : Parser (Option Int64)} (h : LeavesSuffix inner) :
    LeavesSuffix (factorWith inner) :=
  leavesSuffix_signedNumeral.orElse ((leavesSuffix_char '(').between h (leavesSuffix_char ')'))

theorem leavesSuffix_termWith {inner : Parser (Option Int64)} (h : LeavesSuffix inner) :
    LeavesSuffix (termWith inner) :=
  leavesSuffix_chain (leavesSuffix_factorWith h) _

theorem leavesSuffix_expressionWith {inner : Parser (Option Int64)} (h : LeavesSuffix inner) :
    LeavesSuffix (expressionWith inner) :=
  leavesSuffix_chain (leavesSuffix_termWith h) _

theorem leavesSuffix_expressionWithin (n : Nat) : LeavesSuffix (expressionWithin n) := by
  induction n with
  | zero => exact leavesSuffix_fail
  | succ n ih => exact leavesSuffix_expressionWith ih

theorem leavesSuffix_nested : LeavesSuffix nested :=
  fun s => leavesSuffix_expressionWithin (s.length + 1) s

theorem Level.leavesSuffix_checked (level : Level) : LeavesSuffix level.checked := by
  cases level with
  | expression => exact leavesSuffix_expressionWith leavesSuffix_nested
  | term => exact leavesSuffix_termWith leavesSuffix_nested
  | factor => exact leavesSuffix_factorWith leavesSuffix_nested

theorem Level.leavesSuffix_parser (level : Level) : LeavesSuffix level.parser :=
  level.leavesSuffix_checked.filterMap _

/-! ## Exchange of the parser inside parentheses -/

/-- The parsers agree on every shorter end of the text. -/
def AgreeInside (s : Text) (p q : Parser (Option Int64)) : Prop :=
  ∀ t, t <:+ s → t.length < s.length → p t = q t

theorem AgreeInside.of_suffix {s t : Text} {p q : Parser (Option Int64)} (h : AgreeInside s p q)
    (ht : t <:+ s) : AgreeInside t p q :=
  fun t' ht' hlt => h t' (ht'.trans ht) (Nat.lt_of_lt_of_le hlt ht.length_le)

theorem between_parens_congr {s : Text} {p q : Parser (Option Int64)} (h : AgreeInside s p q) :
    between (char '(') p (char ')') s = between (char '(') q (char ')') s := by
  cases s with
  | nil => rfl
  | cons c s =>
      unfold between
      rw [char_cons]
      by_cases hc : c = '('
      · have hs : p s = q s := h s (List.suffix_cons c s) (Nat.lt_succ_self s.length)
        simp only [hc, if_true, List.flatMap_cons, List.flatMap_nil, hs]
      · simp only [hc, if_false, List.flatMap_nil]

theorem factorWith_congr {s : Text} {p q : Parser (Option Int64)} (h : AgreeInside s p q) :
    AgreeOn s (factorWith p) (factorWith q) := by
  refine AgreeOn.orElse (fun _ _ => rfl) fun t ht => ?_
  exact between_parens_congr (h.of_suffix ht)

theorem chain_congr {s : Text} {p q : Parser (Option Int64)} (h : AgreeOn s p q)
    (hp : LeavesSuffix p) (symbols : Text) : AgreeOn s (chain p symbols) (chain q symbols) := by
  have hop : AgreeOn s (operator symbols) (operator symbols) := fun _ _ => rfl
  have hpair := hop.andThen (leavesSuffix_operator symbols) h
  exact (h.andThen hp (hpair.many ((leavesSuffix_operator symbols).andThen hp))).map _

theorem expressionWith_congr {s : Text} {p q : Parser (Option Int64)} (h : AgreeInside s p q)
    (hp : LeavesSuffix p) : expressionWith p s = expressionWith q s :=
  (chain_congr (chain_congr (factorWith_congr h) (leavesSuffix_factorWith hp) _)
    (leavesSuffix_termWith hp) _).self

/-! ## The equations -/

/-- Two counts of levels give the same readings once both exceed the length of the text. -/
theorem expressionWithin_eq {m n : Nat} {s : Text} (hm : s.length < m) (hn : s.length < n) :
    expressionWithin m s = expressionWithin n s := by
  induction m generalizing n s with
  | zero => omega
  | succ m ih =>
      obtain ⟨n, rfl⟩ : ∃ k, n = k + 1 := ⟨n - 1, by omega⟩
      refine expressionWith_congr (fun t _ hlt => ?_) (leavesSuffix_expressionWithin m)
      exact ih (by omega) (by omega)

/-- The closed parser satisfies the rule for expressions with itself inside the parentheses. -/
theorem nested_eq : nested = expressionWith nested := by
  funext s
  show expressionWith (expressionWithin s.length) s = expressionWith nested s
  refine expressionWith_congr (fun t _ hlt => ?_) (leavesSuffix_expressionWithin s.length)
  exact expressionWithin_eq hlt (Nat.lt_succ_self t.length)

/-- The three rules of the grammar. -/
theorem Level.checked_eq :
    checked .expression = chain (checked .term) ['+', '-'] ∧
      checked .term = chain (checked .factor) ['*', '/'] ∧
        checked .factor =
          orElse signedNumeral (between (char '(') (checked .expression) (char ')')) := by
  refine ⟨rfl, rfl, ?_⟩
  show factorWith nested = factorWith (expressionWith nested)
  rw [← nested_eq]

end Arithmetic

end ExprCalc
