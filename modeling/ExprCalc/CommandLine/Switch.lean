import ExprCalc.Text.Utf8

/-!
# Options of the command line

The options, each with a long name and a one-letter name. One of them, the nesting limit, takes a
value; the others are flags.
-/

set_option autoImplicit false

namespace ExprCalc

namespace CommandLine

/-- An option of the command line. -/
inductive Switch where
  | allowTrailing
  | maxDepth
  | help
  | version
  deriving DecidableEq

namespace Switch

/-- Every option, in the order of the help text. -/
def all : List Switch := [allowTrailing, maxDepth, help, version]

/-- The long name of an option, without the hyphens. -/
def name : Switch → Text
  | allowTrailing => "allow-trailing".toList
  | maxDepth => "max-depth".toList
  | help => "help".toList
  | version => "version".toList

/-- The one-letter name of an option, as a byte of the argument. -/
def letter : Switch → UInt8
  | allowTrailing => 0x74
  | maxDepth => 0x78
  | help => 0x68
  | version => 0x56

/-- The option with the given long name. -/
def ofName? (name : Text) : Option Switch := all.find? fun o => o.name = name

/-- The option with the given letter. -/
def ofLetter? (letter : UInt8) : Option Switch := all.find? fun o => o.letter = letter

/-- An option as messages show it: its long name, and a placeholder for the value if it
takes one. -/
def display : Switch → Text
  | maxDepth => "--max-depth <max_depth>".toList
  | o => '-' :: '-' :: o.name

end Switch

end CommandLine

end ExprCalc
