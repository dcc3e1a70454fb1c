import ExprCalc.CommandLine.Settings

/-!
# Help and version

The texts that the program writes when it is asked about itself. The help lists the arguments and
the options in two columns, and shows the values of the environment variables.
-/

set_option autoImplicit false

namespace ExprCalc

namespace CommandLine

/-- One entry of the help: a label of the given width, then the description. The later lines of the
description start below its first one. -/
def helpEntry (width : Nat) (label : String) (description : Text) : Text :=
  let indent (c : Char) : Text := if c = '\n' then '\n' :: List.replicate (width + 4) ' ' else [c]
  "  ".toList ++ label.toList.rightpad width ' ' ++ "  ".toList ++ description.flatMap indent ++
    ['\n']

/-- The note on the variable of an option, with its value. -/
def variableNote (name : String) (value? : Option Text) : Text :=
  " [env: ".toList ++ name.toList ++ ['='] ++ value?.getD [] ++ [']']

/-- The help text. -/
def helpText (env : Environment) : Text :=
  "Evaluate integer arithmetic expressions\n\nUsage: ".toList ++ Mention.usage {} ++
    "\n\nArguments:\n".toList ++
    helpEntry 12 "[expression]"
      ("Expression to evaluate, e.g. '(3+2)*3'.\n".toList ++
        "When omitted, each line of stdin is evaluated.".toList) ++
    "\nOptions:\n".toList ++
    helpEntry 27 "-t, --allow-trailing"
      ("Accept input left over after the expression?".toList ++
        variableNote "PARSICALC_ALLOW_TRAILING" env.allowTrailing) ++
    helpEntry 27 "-x, --max-depth <max_depth>"
      ("Maximum parenthesis nesting depth [default: 256]".toList ++
        variableNote "PARSICALC_MAX_DEPTH" env.maxDepth) ++
    helpEntry 27 "-h, --help" "Print help".toList ++
    helpEntry 27 "-V, --version" "Print version".toList

/-- The version text. -/
def versionText : Text := "parsicalc 0.1.0\n".toList

end CommandLine

end ExprCalc
