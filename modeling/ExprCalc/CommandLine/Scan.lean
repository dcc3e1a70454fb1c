import ExprCalc.CommandLine.Argument
import ExprCalc.CommandLine.Given

/-!
# The scan of the arguments

The arguments are taken from left to right, and what has been taken decides how the next one reads.

* The expression may start with hyphens. As long as it has not been given, an argument that looks
  like an option but is none of the known ones is a value: that of the limit option if it waits for
  one, and the expression otherwise. Once the expression has been given, such an argument is an
  error.
* What is pending is settled when an option or the expression starts, so a fault of it wins over all
  that follows. But an argument that cannot be taken at all is an error before that.
* After the argument `--` every argument is positional.
-/

set_option autoImplicit false

namespace ExprCalc

namespace CommandLine

/-- The scan after some arguments. -/
structure Scan where
  given : Given := {}
  pending : Option Pending := none
  /-- Has the argument `--` been met? -/
  positionalOnly : Bool := false

/-- What ends the scan before the last argument. -/
inductive Stop where
  | usage (e : UsageError)
  | help
  | version

namespace Scan

/-- What has been given, with what is pending. -/
def settled (s : Scan) : Except Stop Given := (s.given.settle s.pending).mapError .usage

/-- Has the expression been given? -/
def hasExpression (s : Scan) : Bool :=
  match s.pending with
  | some (.expression _) => true
  | _ => s.given.expression.isSome

/-- Takes an option that has no value attached to it. -/
def takeSwitch (s : Scan) (o : Switch) : Except Stop Scan :=
  s.settled.bind fun g =>
    match o with
    | .help => .error .help
    | .version => .error .version
    | .maxDepth => .ok { s with given := g, pending := some (.depth none) }
    | .allowTrailing =>
        ((g.addFlag o).mapError .usage).map fun g => { s with given := g, pending := none }

/-- Takes the limit option with a value attached to it. -/
def takeDepth (s : Scan) (value : Bytes) : Except Stop Scan :=
  s.settled.bind fun g =>
    ((g.addDepth value).mapError .usage).map fun g => { s with given := g, pending := none }

/-- Takes a positional argument. -/
def takePositional (s : Scan) (arg : Bytes) : Except Stop Scan :=
  if s.hasExpression then .error (.usage (.unexpectedArgument (Utf8.lossy arg) none {}))
  else s.settled.map fun g => { s with given := g, pending := some (.expression arg) }

/-- Takes an argument that is no option. -/
def takeValue (s : Scan) (arg : Bytes) : Except Stop Scan :=
  match s.pending with
  | some (.depth none) => .ok { s with pending := some (.depth (some arg)) }
  | _ => s.takePositional arg

/-- Takes a long option. -/
def takeLong (s : Scan) (o : Switch) (value? : Option Bytes) : Except Stop Scan :=
  match o, value? with
  | .maxDepth, some value => s.takeDepth value
  | o, some value =>
      .error (.usage (.unexpectedValue (Utf8.lossy value) o (s.given.mentionFlag o)))
  | o, none => s.takeSwitch o

/-- Takes the letters of a cluster one by one. What follows the letter of the limit option is its
value, after an equals sign or without one. -/
def takeCluster (s : Scan) : Bytes → Except Stop Scan
  | [] => .ok s
  | b :: rest =>
      match Switch.ofLetter? b with
      | none =>
          let shown :=
            match Utf8.firstChar? (b :: rest) with
            | some c => [c]
            | none => Utf8.lossy (b :: rest)
          .error (.usage (.unexpectedArgument ('-' :: shown) (some .passAsValue) {}))
      | some .maxDepth =>
          match rest with
          | [] => s.takeSwitch .maxDepth
          | c :: value => s.takeDepth (if c = equals then value else rest)
      | some o => (s.takeSwitch o).bind fun s => s.takeCluster rest

/-- Takes the next argument. -/
def step (s : Scan) (arg : Bytes) : Except Stop Scan :=
  if s.positionalOnly then s.takePositional arg
  else
    match Shape.of arg with
    | .terminator => .ok { s with positionalOnly := true }
    | .long name value? =>
        let unknown (shown : Text) : Except Stop Scan :=
          .error (.usage (.unknownOption shown (s.given.mention s.pending)))
        match Utf8.decode? name with
        | none => unknown (Utf8.lossy name)
        | some name =>
            match Switch.ofName? name with
            | some o => s.takeLong o value?
            | none => if s.hasExpression then unknown name else s.takeValue arg
    | .cluster letters =>
        if !s.hasExpression && letters.any fun b => (Switch.ofLetter? b).isNone then
          s.takeValue arg
        else s.takeCluster letters
    | .plain => s.takeValue arg

end Scan

/-- What all arguments give. -/
def scan (args : List Bytes) : Except Stop Given :=
  (args.foldlM Scan.step {}).bind Scan.settled

end CommandLine

end ExprCalc
