import ExprCalc.Arithmetic
import ExprCalc.Grammar.Value

/-!
# Rules

A rule describes a parser as a piece of data: it is one of the parsers of this library, or several
rules put together by one of its operations. A rule may refer to another one by name, and a grammar
gives a rule to each name. So the rules of a grammar may refer to each other in circles, and to
themselves.
-/

set_option autoImplicit false

namespace ExprCalc

namespace Grammar

/-- A description of a parser. -/
inductive Rule where
  /-- Any one character. -/
  | any
  /-- The given character. -/
  | char (expected : Char)
  /-- One character of the given set. -/
  | oneOf (set : Text)
  /-- One letter. -/
  | letter
  /-- One decimal digit. -/
  | digit
  /-- A number without a sign. -/
  | natural
  /-- A number with or without a sign. -/
  | integer
  /-- Arithmetic of the given level, with its value. -/
  | arithmetic (level : Arithmetic.Level)
  /-- One operator, out of those whose symbols are in the given set. -/
  | operator (symbols : Text)
  /-- Every start of the text whose length in characters is in the given interval, the shortest
  first or the longest first. -/
  | starts (min max : Nat) (longestFirst : Bool)
  /-- One or more in a row. -/
  | many1 (a : Rule)
  /-- Any number in a row. -/
  | many (a : Rule)
  /-- The first rule, or the second one where the first fails. -/
  | choice (a b : Rule)
  /-- One rule after the other, with the pair of their values. -/
  | seq (a b : Rule)
  /-- One rule after the other, with the value of the second put at the end of that of
  the first. -/
  | push (a b : Rule)
  /-- The second rule between the first and the third one. -/
  | between (a b c : Rule)
  /-- The rule with its values changed. -/
  | map (a : Rule) (f : Change)
  /-- The rule with only the values that pass a test. -/
  | filter (a : Rule) (f : Test)
  /-- The rule with its values changed where a partial function has an answer. -/
  | filterMap (a : Rule) (f : Selection)
  /-- The rule with its values paired with the text that was read. -/
  | span (a : Rule)
  /-- The rule as it is. -/
  | group (a : Rule)
  /-- The rule of the given name. -/
  | ref (name : String)

end Grammar

/-- A grammar gives rules to names. The first rule for a name is the one that counts. -/
structure Grammar where
  rules : List (String × Grammar.Rule)

namespace Grammar

/-- The rule of a name, if it has one. -/
def rule? (g : Grammar) (name : String) : Option Rule := g.rules.lookup name

end Grammar

end ExprCalc
