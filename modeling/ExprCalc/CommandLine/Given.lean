import ExprCalc.CommandLine.Usage

/-!
# What the arguments have given

The value of the limit option may be an argument of its own, and this value and the expression are
checked late: when the next option or the expression starts, or at the end. Until then they are
pending. `Given` holds what has been checked and `Pending` what has not, and `Given.settle` goes from
one to the other.
-/

set_option autoImplicit false

namespace ExprCalc

namespace CommandLine

/-- What has been given and checked. -/
structure Given where
  /-- The options, in the order of the arguments. -/
  options : List Switch := []
  maxDepth : Option Nat := none
  expression : Option Text := none

/-- What has been given but not checked yet. -/
inductive Pending where
  /-- The limit option, with the argument after it if this has been met. -/
  | depth (value? : Option Bytes)
  /-- The expression. -/
  | expression (value : Bytes)

namespace Given

/-- Checks a value of the limit option, and adds it. -/
def addDepth (g : Given) (value : Bytes) : Except UsageError Given :=
  if .maxDepth ∈ g.options then .error (.repeated .maxDepth)
  else
    match Utf8.decode? value with
    | none => .error .notUtf8
    | some s =>
        match readDepth s with
        | .error reason => .error (.badDepth s reason)
        | .ok n => .ok { g with options := g.options ++ [.maxDepth], maxDepth := some n }

/-- Adds a flag. -/
def addFlag (g : Given) (flag : Switch) : Except UsageError Given :=
  if flag ∈ g.options then .error (.repeated flag)
  else .ok { g with options := g.options ++ [flag] }

/-- Checks what is pending, and adds it. -/
def settle (g : Given) : Option Pending → Except UsageError Given
  | none => .ok g
  | some (.depth none) => .error .missingDepth
  | some (.depth (some value)) => g.addDepth value
  | some (.expression value) =>
      match Utf8.decode? value with
      | none => .error .notUtf8
      | some s => .ok { g with expression := some s }

/-- What a usage line mentions where what is pending counts, whether it passes its check or not. A
second value of the limit option takes back the first one. -/
def mention (g : Given) : Option Pending → Mention
  | some (.depth (some _)) =>
      if .maxDepth ∈ g.options then ⟨g.options.erase .maxDepth, g.expression.isSome⟩
      else ⟨g.options ++ [.maxDepth], g.expression.isSome⟩
  | some (.expression _) => ⟨g.options, true⟩
  | _ => ⟨g.options, g.expression.isSome⟩

/-- What a usage line mentions that is about a given flag, where what is pending does not count. -/
def mentionFlag (g : Given) (flag : Switch) : Mention :=
  Mention.add ⟨g.options, g.expression.isSome⟩ flag

end Given

end CommandLine

end ExprCalc
