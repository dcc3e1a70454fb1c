import ExprCalc.Operator
import ExprCalc.Text.Decimal

/-!
# Values of rules

What the rules of a grammar read. Rules of every kind may be combined, so one type holds all their
values, and the functions that a rule may apply to its values look at the kind of value they are
given. Each such function is one of a fixed list, so that a grammar is a plain piece of data.
-/

set_option autoImplicit false

namespace ExprCalc

namespace Grammar

/-- The value of a rule. -/
inductive Value where
  | char (c : Char)
  | int (n : Int)
  | text (s : Text)
  | operator (op : Operator)
  | pair (first second : Value)
  | list (values : List Value)

namespace Value

/-- The values in a list. Any other value counts as a list of one. -/
def toList : Value → List Value
  | list values => values
  | v => [v]

end Value

/-! ## Functions on values -/

/-- Functions that change a value. A value of a kind that the function is not for stays as
it is. -/
inductive Change where
  /-- A value becomes the list of this value alone. -/
  | wrap
  /-- A pair becomes its first part. -/
  | fst
  /-- A pair becomes its second part. -/
  | snd
  /-- A list becomes its length. -/
  | count
  /-- A character becomes its code point. -/
  | code
  /-- An operator becomes its symbol. -/
  | symbol
  /-- An integer becomes the next one. -/
  | next
  deriving DecidableEq

/-- The changed value. -/
def Change.apply : Change → Value → Value
  | .wrap, v => .list [v]
  | .fst, .pair a _ => a
  | .snd, .pair _ b => b
  | .count, .list values => .int values.length
  | .code, .char c => .int c.toNat
  | .symbol, .operator op => .char op.symbol
  | .next, .int n => .int (n + 1)
  | _, v => v

/-- Tests of a value. A value of a kind that the test is not for fails it. -/
inductive Test where
  /-- A character with the `Alphabetic` property. -/
  | alphabetic
  /-- An even integer. -/
  | even
  /-- A list or a text that is not empty. -/
  | nonempty
  /-- A text of ASCII characters only. -/
  | ascii
  deriving DecidableEq

/-- Does a value pass the test? -/
def Test.holds : Test → Value → Bool
  | .alphabetic, .char c => isAlphabetic c
  | .even, .int n => n % 2 == 0
  | .nonempty, .list values => !values.isEmpty
  | .nonempty, .text s => !s.isEmpty
  | .ascii, .text s => s.all fun c => c.toNat < 128
  | _, _ => false

/-- Partial functions on values. A value of a kind that the function is not for has no answer. -/
inductive Selection where
  /-- A character becomes its value as a digit in the given radix. -/
  | digit (radix : Nat)
  /-- A character becomes the operator that it stands for. -/
  | operator
  /-- An even integer becomes its half. -/
  | half
  /-- A left operand, an operator and a right operand become the value of the operation. -/
  | apply
  deriving DecidableEq

/-- The answer of a partial function, if it has one. -/
def Selection.apply? : Selection → Value → Option Value
  | .digit radix, .char c => (digitValue? radix c).map fun d => .int d
  | .operator, .char c => (Operator.ofSymbol? c).map .operator
  | .half, .int n => if n % 2 = 0 then some (.int (n / 2)) else none
  | .apply, .pair (.pair (.int l) (.operator op)) (.int r) =>
      (Word.signed? l).bind fun l =>
        (Word.signed? r).bind fun r => (op.apply l r).map fun v => .int v.toInt
  | _, _ => none

end Grammar

end ExprCalc
