import ExprCalc.Text.Utf8

/-!
# The shape of an argument

What one argument looks like by itself, before it is known what it means. Hyphens at its start and
the first equals sign decide; nothing is decoded, since all of them are single bytes in UTF-8.
-/

set_option autoImplicit false

namespace ExprCalc

namespace CommandLine

/-- The hyphen, as a byte of an argument. -/
def hyphen : UInt8 := 0x2d

/-- The equals sign, as a byte of an argument. -/
def equals : UInt8 := 0x3d

/-- What an argument looks like, told by its hyphens. -/
inductive Shape where
  /-- Two hyphens and nothing else. -/
  | terminator
  /-- A long name after two hyphens, and the value after an equals sign, if there is one. -/
  | long (name : Bytes) (value? : Option Bytes)
  /-- One hyphen, then something that does not start with a hyphen. -/
  | cluster (letters : Bytes)
  /-- Anything else, a hyphen alone among it. -/
  | plain

/-- The shape of a long option, from what follows its hyphens. -/
def Shape.ofLong (body : Bytes) : Shape :=
  let name := body.takeWhile (· ≠ equals)
  match body.dropWhile (· ≠ equals) with
  | [] => .long name none
  | _ :: value => .long name (some value)

/-- The shape of an argument. -/
def Shape.of (arg : Bytes) : Shape :=
  match arg with
  | first :: second :: rest =>
      if first ≠ hyphen then .plain
      else if second ≠ hyphen then .cluster (second :: rest)
      else if rest.isEmpty then .terminator
      else Shape.ofLong rest
  | _ => .plain

end CommandLine

end ExprCalc
