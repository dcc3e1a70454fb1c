import ExprCalc.Numeral
import ExprCalc.Operator

/-!
# The arithmetic grammar

    expression := term (('+' | '-') term)*
    term       := factor (('*' | '/') factor)*
    factor     := integer | '(' expression ')'

Precedence and left associativity come from the shape of the grammar alone, and no blanks are
skipped. The three rules are the three levels of the grammar (`Level`).

A level has two parsers. `Level.checked` reads the text of the rule, and its value is `none` if the
arithmetic fails anywhere in this text: a number or a result that no word holds, or a division by
zero. `Level.parser` has no reading in this case. So a failure of the arithmetic never makes a
parser stop earlier and answer for a shorter text.

The rules refer to each other in a circle, which is cut at the parentheses. `factorWith`,
`termWith` and `expressionWith` are the rules with the parser for the inside of parentheses left
open, and `expressionWithin n` closes the circle for at most `n` expressions inside one another.
What is inside parentheses starts after the opening one, on a shorter text, so as many levels as
the text has characters, and one more, are enough for every text.
-/

set_option autoImplicit false

namespace ExprCalc

namespace Arithmetic

open ExprCalc.Parser

/-! ## Chains -/

/-- Folds the operands of a chain from left to right. The chain has no value if an operand or a
step has none. -/
def foldChain (first : Option Int64) (rest : List (Operator × Option Int64)) : Option Int64 :=
  first.bind fun v => rest.foldlM (fun l (op, r) => r.bind (op.apply l)) v

/-- One operand, then as many pairs of an operator and an operand as there are, folded from left to
right. -/
def chain (operand : Parser (Option Int64)) (symbols : Text) : Parser (Option Int64) :=
  (operand.andThen (many ((operator symbols).andThen operand))).map fun (first, rest) =>
    foldChain first rest

/-! ## The rules with the inside of parentheses left open -/

/-- An integer, or else what `inner` reads between parentheses. -/
def factorWith (inner : Parser (Option Int64)) : Parser (Option Int64) :=
  orElse signedNumeral (between (char '(') inner (char ')'))

/-- A chain of factors with the operators `*` and `/`. -/
def termWith (inner : Parser (Option Int64)) : Parser (Option Int64) :=
  chain (factorWith inner) ['*', '/']

/-- A chain of terms with the operators `+` and `-`. -/
def expressionWith (inner : Parser (Option Int64)) : Parser (Option Int64) :=
  chain (termWith inner) ['+', '-']

/-! ## The circle closed -/

/-- An expression that needs at most `n` expressions inside one another, itself included. -/
def expressionWithin : Nat → Parser (Option Int64)
  | 0, _ => []
  | n + 1, s => expressionWith (expressionWithin n) s

/-- An expression, however deep. -/
def nested : Parser (Option Int64) := fun s => expressionWithin (s.length + 1) s

/-- A level of the grammar. -/
inductive Level where
  | expression
  | term
  | factor
  deriving DecidableEq

namespace Level

/-- The parser of a level whose value is `none` if the arithmetic fails. -/
def checked : Level → Parser (Option Int64)
  | expression => expressionWith nested
  | term => termWith nested
  | factor => factorWith nested

/-- The parser of a level that has no reading if the arithmetic fails. -/
def parser (level : Level) : Parser Int64 := level.checked.filterMap id

end Level

end Arithmetic

end ExprCalc
