import ExprCalc.Parser.Character
import ExprCalc.Word

/-!
# Operators

The four operators of arithmetic, their symbols, and what they do to signed words. An operation has
no value where its exact result does not fit into a word, and division has none by zero. Division
rounds toward zero.
-/

set_option autoImplicit false

namespace ExprCalc

/-- An operator between two operands. -/
inductive Operator where
  | add
  | subtract
  | multiply
  | divide
  deriving DecidableEq

namespace Operator

/-- The operator that a character stands for. -/
def ofSymbol? : Char → Option Operator
  | '+' => some .add
  | '-' => some .subtract
  | '*' => some .multiply
  | '/' => some .divide
  | _ => none

/-- The character that stands for an operator. -/
def symbol : Operator → Char
  | .add => '+'
  | .subtract => '-'
  | .multiply => '*'
  | .divide => '/'

/-- The value of an operation on two words, if there is one. -/
def apply : Operator → Int64 → Int64 → Option Int64
  | .add, l, r => Word.signed? (l.toInt + r.toInt)
  | .subtract, l, r => Word.signed? (l.toInt - r.toInt)
  | .multiply, l, r => Word.signed? (l.toInt * r.toInt)
  | .divide, l, r => if r = 0 then none else Word.signed? (l.toInt.tdiv r.toInt)

/-- Reading the symbol of an operator gives this operator. -/
@[simp] theorem ofSymbol?_symbol (op : Operator) : ofSymbol? op.symbol = some op := by
  cases op <;> rfl

end Operator

/-- One operator, out of those whose symbols are in the given set. -/
def Parser.operator (symbols : Text) : Parser Operator :=
  (oneOf symbols).filterMap Operator.ofSymbol?

end ExprCalc
