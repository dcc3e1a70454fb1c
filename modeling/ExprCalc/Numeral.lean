import ExprCalc.Parser.Character
import ExprCalc.Parser.Repeat
import ExprCalc.Parser.Sequence
import ExprCalc.Text.Decimal
import ExprCalc.Word

/-!
# Numerals

A numeral is a run of decimal digits, with or without a sign before it. There are two parsers for
each kind. `unsignedNumeral` and `signedNumeral` read every numeral, and their value is `none`
where no word holds the number; so the size of a number never decides how much text is read.
`natural` and `integer` drop the numerals without a value.

Leading zeros are allowed, and only the ten ASCII digits count as digits.
-/

set_option autoImplicit false

namespace ExprCalc

/-- The unsigned word that decimal digits write, most significant digit first, if one holds their
number. -/
def wordOfDigits? (digits : List Nat) : Option UInt64 :=
  digits.foldlM (fun value d => Word.unsigned? (value.toNat * 10 + d)) 0

/-- The signed word with the given sign and magnitude, if there is one. -/
def wordOfSign? (sign : Char) (magnitude : UInt64) : Option Int64 :=
  Word.signed? (if sign = '-' then -(magnitude.toNat : Int) else magnitude.toNat)

namespace Parser

/-- One decimal digit. -/
def digit : Parser Nat := any.filterMap (digitValue? 10)

/-- A run of digits, with its number if an unsigned word holds it. -/
def unsignedNumeral : Parser (Option UInt64) := (many1 digit).map wordOfDigits?

/-- A run of digits whose number an unsigned word holds. -/
def natural : Parser UInt64 := unsignedNumeral.filterMap id

/-- A run of digits after a sign, or else without one, with its number if a signed word
holds it. -/
def signedNumeral : Parser (Option Int64) :=
  orElse
    (((oneOf ['+', '-']).andThen unsignedNumeral).map fun (sign, magnitude) =>
      magnitude.bind (wordOfSign? sign))
    (unsignedNumeral.map fun magnitude => magnitude.bind (wordOfSign? '+'))

/-- An optional sign and a run of digits, whose number a signed word holds. -/
def integer : Parser Int64 := signedNumeral.filterMap id

end Parser

end ExprCalc
