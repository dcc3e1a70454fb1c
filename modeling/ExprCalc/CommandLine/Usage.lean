import ExprCalc.CommandLine.Depth
import ExprCalc.CommandLine.Suggestion

/-!
# Usage errors

What can be wrong with the arguments, and the message for each fault. Where the fault is in how
arguments are put together, the message ends with a usage line; where it is in a single value, it
does not. An argument that looks like an option may come with advice: the option that was meant, or
how to pass the argument as a value.
-/

set_option autoImplicit false

namespace ExprCalc

namespace CommandLine

/-- What a usage line mentions: some options, and whether the expression has to be there. A line
that mentions nothing is the general one. -/
structure Mention where
  options : List Switch := []
  expression : Bool := false
  deriving DecidableEq

namespace Mention

/-- Mentions an option too, after those that are mentioned already. -/
def add (m : Mention) (o : Switch) : Mention :=
  if o ∈ m.options then m else { m with options := m.options ++ [o] }

/-- The usage line, without its heading. -/
def usage (m : Mention) : Text :=
  if m.options.isEmpty && !m.expression then "parsicalc [OPTIONS] [expression]".toList
  else
    "parsicalc".toList ++ m.options.flatMap (fun o => ' ' :: o.display) ++
      (if m.expression then " <expression>" else " [expression]").toList

end Mention

/-- What to do about an argument that looks like an option but is none. -/
inductive Advice where
  /-- To write the option that was meant. -/
  | write (option : Switch)
  /-- To pass the argument as a value. -/
  | passAsValue
  deriving DecidableEq

/-- What is wrong with the arguments. -/
inductive UsageError where
  /-- An argument that is neither an option nor can be the expression. -/
  | unexpectedArgument (shown : Text) (advice? : Option Advice) (mention : Mention)
  /-- A flag with a value attached to it. -/
  | unexpectedValue (value : Text) (flag : Switch) (mention : Mention)
  /-- An option that was given before. -/
  | repeated (option : Switch)
  /-- The limit option without a value. -/
  | missingDepth
  /-- A value of the limit option that is no limit. -/
  | badDepth (value : Text) (reason : DepthError)
  /-- An argument that is not UTF-8 where a text is needed. -/
  | notUtf8
  deriving DecidableEq

namespace UsageError

/-- The error for an unknown long option. If a known one was meant, the usage line mentions it. -/
def unknownOption (name : Text) (mention : Mention) : UsageError :=
  let shown := '-' :: '-' :: name
  match Switch.closest? name with
  | some o => .unexpectedArgument shown (some (.write o)) (mention.add o)
  | none => .unexpectedArgument shown (some .passAsValue) mention

/-- What is wrong, in words. -/
def description : UsageError → Text
  | unexpectedArgument shown _ _ => "unexpected argument '".toList ++ shown ++ "' found".toList
  | unexpectedValue value flag _ =>
      "unexpected value '".toList ++ value ++ "' for '".toList ++ flag.display ++
        "' found; no more were expected".toList
  | repeated option =>
      "the argument '".toList ++ option.display ++ "' cannot be used multiple times".toList
  | missingDepth =>
      "a value is required for '".toList ++ Switch.maxDepth.display ++
        "' but none was supplied".toList
  | badDepth value reason =>
      "invalid value '".toList ++ value ++ "' for '".toList ++ Switch.maxDepth.display ++
        "': ".toList ++ reason.message
  | notUtf8 => "invalid UTF-8 was detected in one or more arguments".toList

/-- The advice for an error in words, where there is any. -/
def advice : UsageError → Text
  | unexpectedArgument _ (some (.write o)) _ =>
      "  note: argument '--".toList ++ o.name ++ "' exists\n\n".toList
  | unexpectedArgument shown (some .passAsValue) _ =>
      "  note: to pass '".toList ++ shown ++ "' as a value, use '-- ".toList ++ shown ++
        "'\n\n".toList
  | _ => []

/-- What the usage line of an error mentions, if the error has a usage line. -/
def mention? : UsageError → Option Mention
  | unexpectedArgument _ _ mention => some mention
  | unexpectedValue _ _ mention => some mention
  | repeated _ => some {}
  | missingDepth => none
  | badDepth _ _ => none
  | notUtf8 => some {}

/-- The whole message for an error. -/
def message (e : UsageError) : Text :=
  let usage : Text :=
    match e.mention? with
    | none => []
    | some m => "Usage: ".toList ++ m.usage ++ "\n\n".toList
  "error: ".toList ++ e.description ++ "\n\n".toList ++ e.advice ++ usage ++
    "For more information, try '--help'.\n".toList

end UsageError

end CommandLine

end ExprCalc
