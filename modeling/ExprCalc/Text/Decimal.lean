import ExprCalc.Text.Basic

/-!
# Digits

The written form of numbers. A natural number is written with the fewest digits, and a negative
integer is the digits of its magnitude after a minus sign.
-/

set_option autoImplicit false

namespace ExprCalc

namespace Text

/-- A natural number in decimal digits. -/
def ofNat (n : Nat) : Text := Nat.toDigits 10 n

/-- A natural number in lower-case hexadecimal digits. -/
def hexOfNat (n : Nat) : Text := Nat.toDigits 16 n

/-- An integer in decimal digits, after a minus sign if it is negative. -/
def ofInt (n : Int) : Text := if n < 0 then '-' :: ofNat n.natAbs else ofNat n.natAbs

end Text

/-- The value of a digit in the given radix: the decimal digits, then the letters of the alphabet
in either case stand for ten and more. Digits of other scripts have no value. -/
def digitValue? (radix : Nat) (c : Char) : Option Nat :=
  let value? : Option Nat :=
    if '0' ≤ c ∧ c ≤ '9' then some (c.toNat - '0'.toNat)
    else if 'a' ≤ c ∧ c ≤ 'z' then some (c.toNat - 'a'.toNat + 10)
    else if 'A' ≤ c ∧ c ≤ 'Z' then some (c.toNat - 'A'.toNat + 10)
    else none
  value?.filter (· < radix)

end ExprCalc
