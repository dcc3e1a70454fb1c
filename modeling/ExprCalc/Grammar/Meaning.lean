import ExprCalc.Grammar.Rule
import ExprCalc.Parser.Span

/-!
# The parser of a rule

`Rule.parser` turns a rule into a parser, given a parser for each name. The names themselves get
their parsers from the grammar, by approximation: `Grammar.within g n` is right for every parse in
which at most `n` references are followed one inside another.

`Grammar.parse` takes an approximation that is good enough for every parse that ends. In such a
parse no reference is followed again on the same text inside itself, so at most one reference is
open for each name and each remainder of the text, and there is one more remainder than the text
has characters.
-/

set_option autoImplicit false

namespace ExprCalc

namespace Parser

/-- Every start of the text with a length from `min` to `max` characters, the shortest first or the
longest first. -/
def starts (min max : Nat) (longestFirst : Bool) : Parser Text :=
  fun s =>
    let lengths := (List.range (s.length + 1)).filter fun n => min ≤ n && n ≤ max
    (if longestFirst then lengths.reverse else lengths).map fun n => ⟨s.take n, s.drop n⟩

end Parser

namespace Grammar

/-- The parser that a rule describes, when `parserOf` gives the parsers for the names. -/
def Rule.parser (parserOf : String → Parser Value) : Rule → Parser Value
  | any => Parser.any.map Value.char
  | char expected => (Parser.char expected).map Value.char
  | oneOf set => (Parser.oneOf set).map Value.char
  | letter => Parser.letter.map Value.char
  | digit => Parser.digit.map fun d => .int d
  | natural => Parser.natural.map fun n => .int n.toNat
  | integer => Parser.integer.map fun n => .int n.toInt
  | arithmetic level => level.parser.map fun n => .int n.toInt
  | operator symbols => (Parser.operator symbols).map Value.operator
  | starts min max longestFirst => (Parser.starts min max longestFirst).map Value.text
  | many1 a => (Parser.many1 (a.parser parserOf)).map Value.list
  | many a => (Parser.many (a.parser parserOf)).map Value.list
  | choice a b => (a.parser parserOf).orElse (b.parser parserOf)
  | seq a b => ((a.parser parserOf).andThen (b.parser parserOf)).map fun (x, y) => .pair x y
  | push a b =>
      (((a.parser parserOf).map Value.toList).push (b.parser parserOf)).map Value.list
  | between a b c =>
      Parser.between (a.parser parserOf) (b.parser parserOf) (c.parser parserOf)
  | map a f => (a.parser parserOf).map f.apply
  | filter a f => (a.parser parserOf).filter f.holds
  | filterMap a f => (a.parser parserOf).filterMap f.apply?
  | span a => (a.parser parserOf).withSpan.map fun (x, s) => .pair x (.text s)
  | group a => a.parser parserOf
  | ref name => parserOf name

/-- The parser of a name that follows at most `n` references one inside another, the one to this
name included. A reference that goes deeper fails, and so does one to a name without a rule. -/
def within (g : Grammar) : Nat → String → Parser Value
  | 0, _, _ => []
  | n + 1, name, s =>
      match g.rule? name with
      | none => []
      | some r => r.parser (g.within n) s

/-- The parser that a rule describes in a grammar. -/
def parse (g : Grammar) (r : Rule) : Parser Value :=
  fun s => r.parser (g.within (g.rules.length * (s.length + 1))) s

end Grammar

end ExprCalc
