import ExprCalc.Text.Decimal
import ExprCalc.Text.Printable

/-!
# Quoted text

A text is shown in a message between double quotes. A quote, a backslash, the null character, the
tab and the two line-ending characters are written as a backslash and one more character. Every
other character that does not print as a glyph of its own is written as `\u` and its code point in
hexadecimal between braces. So a quoted text is always one line of printable characters.
-/

set_option autoImplicit false

namespace ExprCalc

namespace Text

/-- One character as it stands between quotes. -/
def quoteChar (c : Char) : Text :=
  if c = '\x00' then ['\\', '0']
  else if c = '\t' then ['\\', 't']
  else if c = '\r' then ['\\', 'r']
  else if c = '\n' then ['\\', 'n']
  else if c = '\\' then ['\\', '\\']
  else if c = '"' then ['\\', '"']
  else if isPrintable c then [c]
  else '\\' :: 'u' :: '\x7b' :: (hexOfNat c.toNat ++ ['\x7d'])

/-- A text between double quotes. -/
def quoted (s : Text) : Text := '"' :: (s.flatMap quoteChar ++ ['"'])

end Text

end ExprCalc
